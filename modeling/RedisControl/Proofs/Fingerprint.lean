import RedisControl.Proofs.RecordedInputs

/-!
# The aggregate is a faithful fingerprint

**Theorem (`aggregate_faithful`).** Take two situations of instances with one name, in each of
which all secrets that are referred to are there and valid. A pass computes the same aggregate in
both if and only if the instances agree in four things: whether clients connect securely, whether
there is a bundle of authorities, the data of the secrets, and the text of the user, where no text
is the empty text. Nothing else counts. If the aggregates are the same and the four things are
not, then two of the texts that were hashed are different and have one digest.

From the aggregates to the four things, every layer is undone in turn:

* the aggregate determines the map of hashes, and its keys the two facts about the spec,
* each hash determines the content under its name,
* the content of a secret determines its data, because the base 64 text of bytes reads back, and
* the configuration of the server determines the text of the user, which comes after a part that
  depends on the two facts only.
-/

namespace RedisControl

open Program Sha256

/-! ## Secrets that have what they need -/

namespace Secret

/-- A way to hash secrets that accepts only those with data, and hashes their data. -/
def HashesData (hash : Secret → Except SecretProblem String) : Prop :=
  ∀ s h, hash s = .ok h →
    ∃ data, s.data = some data ∧ h = contentHash (.ofMap writeBytes data)

/-- A secret that has some keys has data. -/
theorem hashesData_requireKeys (keys : List String) :
    HashesData fun s => (s.requireKeys keys).map fun _ => contentHash s.dataJson := by
  intro s h hs
  cases hk : s.requireKeys keys with
  | error p =>
    simp only [hk] at hs
    cases hs
  | ok u =>
    simp only [hk] at hs
    obtain rfl := Except.ok.inj hs
    cases hdata : s.data with
    | none =>
      rw [requireKeys, hdata] at hk
      cases hk
    | some data => exact ⟨data, rfl, by rw [dataJson, hdata]⟩

theorem hashesData_certificateHash (needsIssuer : Bool) :
    HashesData (·.certificateHash needsIssuer) :=
  hashesData_requireKeys (certificateKeys needsIssuer)

theorem hashesData_caBundleHash : HashesData caBundleHash :=
  hashesData_requireKeys [TlsKey.caBundle]

theorem writeBytes_injective {bytes bytes' : List UInt8}
    (h : writeBytes bytes = writeBytes bytes') : bytes = bytes' :=
  Text.Base64.encode_injective (String.ofList_inj.1 (Json.str.inj h))

/-- The content of a secret determines its data. -/
theorem ofMap_writeBytes_injective {data data' : StringMap (List UInt8)}
    (h : Json.ofMap writeBytes data = Json.ofMap writeBytes data') : data = data' :=
  Json.ofMap_injective (fun _ _ => writeBytes_injective) h

end Secret

/-! ## Situations -/

/-- An instance that objects can name as their owner, where the secrets that it refers to are
there and have what they need. In all other cases a pass ends before it has computed an
aggregate. -/
structure Situation where
  redis : Redis
  secret : (ns name : String) → Option Secret
  complete : redis.IsComplete
  certificate : ∀ name ∈ redis.spec.tls.certificate?, ∃ s h,
    secret (redis.metadata.ns.getD "") name = some s ∧
      s.certificateHash redis.spec.tls.caBundle?.isNone = .ok h
  caBundle : ∀ name ∈ redis.spec.tls.caBundle?, ∃ s h,
    secret (redis.metadata.ns.getD "") name = some s ∧ s.caBundleHash = .ok h

namespace Situation

variable (a b : Situation)

/-- The data of a secret that may be referred to. -/
def dataOf (ref : Option String) : Option (StringMap (List UInt8)) :=
  (ref.bind (a.secret (a.redis.metadata.ns.getD ""))).bind (·.data)

def certificateData : Option (StringMap (List UInt8)) := a.dataOf a.redis.spec.tls.certificate?

def caBundleData : Option (StringMap (List UInt8)) := a.dataOf a.redis.spec.tls.caBundle?

/-- The content of an input that is a secret, if it is referred to. -/
def secretContent (input : String) (data : Option (StringMap (List UInt8))) :
    List (String × Json) :=
  data.toList.map fun d => (input, .ofMap Secret.writeBytes d)

/-- The content of every input, under its name. -/
def contents : List (String × Json) :=
  secretContent InputName.certificate a.certificateData ++
    secretContent InputName.caBundle a.caBundleData ++
    a.redis.configTemplates.map fun t =>
      (t.name, .ofStrings ((a.redis.configData t).toOption.getD .empty))

def inputs : InputHashes := .ofList (a.contents.map fun e => (e.1, contentHash e.2))

/-- All that is hashed: the content of every input, and the map of their hashes. -/
def hashed : List Json := a.contents.map (·.2) ++ [.ofStrings a.inputs.byName]

/-- The answer is one that may be given in the situation: secrets are as they are, and permissions
and config maps are in place. -/
def Answers : Event Cluster → Prop
  | ⟨.getSecret ns name, x⟩ => x = .ok (a.secret ns name)
  | ⟨.apply o, x⟩ => o.kind ∉ [Kind.service, .statefulSet] → Applied.inPlace x = true
  | _ => True

/-- Passes over the instance compute an aggregate: their steps can be gone through, and however
that goes, they come to the aggregate and leave it recorded. -/
def Computes (aggregate : String) : Prop :=
  ∀ settings s, s.conditions.isEmpty = false →
    (∃ t y, Runs (converge settings a.redis s) t y ∧ ∀ e ∈ t, a.Answers e) ∧
    ∀ t x s', Runs (converge settings a.redis s) t (x, s') → (∀ e ∈ t, a.Answers e) →
      s'.hash.get? InputName.aggregate = some aggregate

/-- Two instances agree in all that their pods depend on besides the spec of the workload. -/
structure SameInputs : Prop where
  secure : a.redis.spec.tls.enabled = b.redis.spec.tls.enabled
  bundled : a.redis.spec.tls.caBundle?.isSome = b.redis.spec.tls.caBundle?.isSome
  certificate : a.redis.spec.tls.enabled = true → a.certificateData = b.certificateData
  caBundle : a.redis.spec.tls.caBundle?.isSome = true → a.caBundleData = b.caBundleData
  custom : a.redis.spec.customConfig.getD "" = b.redis.spec.customConfig.getD ""

variable {a b}

/-! ## What a pass computes -/

theorem isSome_dataOf {ref : Option String} {hash : Secret → Except SecretProblem String}
    (hhash : Secret.HashesData hash)
    (valid : ∀ name ∈ ref, ∃ s h, a.secret (a.redis.metadata.ns.getD "") name = some s ∧
      hash s = .ok h) : (a.dataOf ref).isSome = ref.isSome := by
  cases ref with
  | none => rfl
  | some name =>
    obtain ⟨s, h, hs, hh⟩ := valid name rfl
    obtain ⟨data, hdata, -⟩ := hhash s h hh
    rw [dataOf, Option.bind_some, hs, Option.bind_some, hdata]
    rfl

theorem runs_addSecretHash {ref : Option String} {input : String}
    {hash : Secret → Except SecretProblem String} (hhash : Secret.HashesData hash)
    (valid : ∀ name ∈ ref, ∃ s h, a.secret (a.redis.metadata.ns.getD "") name = some s ∧
      hash s = .ok h)
    {before : InputHashes} {t : Trace} {x : Except ControlError InputHashes}
    (run : Runs (addSecretHash (a.redis.metadata.ns.getD "") ref input hash before) t x)
    (answers : ∀ e ∈ t, a.Answers e) :
    x = .ok (before.insertAll
      ((secretContent input (a.dataOf ref)).map fun e => (e.1, contentHash e.2))) := by
  cases ref with
  | none =>
    obtain ⟨-, rfl⟩ := runs_done_iff.1 run
    rfl
  | some name =>
    obtain ⟨s, h, hs, hh⟩ := valid name rfl
    obtain ⟨data, hdata, rfl⟩ := hhash s h hh
    obtain ⟨x, rfl, rfl⟩ := runs_addSecretHash_some.1 run
    have hx : x = .ok (a.secret (a.redis.metadata.ns.getD "") name) :=
      answers _ (List.mem_singleton_self _)
    rw [hx, hs, secretHashOf, hh, dataOf, Option.bind_some, hs, Option.bind_some, hdata]
    rfl

theorem runs_tlsInputHashes {t : Trace} {x : Except ControlError InputHashes}
    (run : Runs (tlsInputHashes a.redis) t x) (answers : ∀ e ∈ t, a.Answers e) :
    x = .ok (InputHashes.empty.insertAll
      ((secretContent InputName.certificate a.certificateData ++
        secretContent InputName.caBundle a.caBundleData).map fun e => (e.1, contentHash e.2))) := by
  obtain ⟨t₁, t₂, y, rfl, hcertificate, h⟩ := RedisControl.runs_tlsInputHashes.1 run
  rw [List.forall_mem_append] at answers
  have hy := runs_addSecretHash (Secret.hashesData_certificateHash _) a.certificate hcertificate
    answers.1
  rcases h with ⟨e, he, -, -⟩ | ⟨inputs, hinputs, hbundle⟩
  · rw [hy] at he
    cases he
  · obtain rfl := Except.ok.inj (hinputs.symm.trans hy)
    rw [runs_addSecretHash Secret.hashesData_caBundleHash a.caBundle hbundle answers.2,
      List.map_append, InputHashes.insertAll_append]
    rfl

theorem inputs_eq (w : Owned a.redis) :
    w.inputs (InputHashes.empty.insertAll
      ((secretContent InputName.certificate a.certificateData ++
        secretContent InputName.caBundle a.caBundleData).map fun e => (e.1, contentHash e.2))) =
      a.inputs := by
  have hconfig : (a.redis.configTemplates.map (·.name)).zip (w.configMaps.map (·.2)) =
      (a.redis.configTemplates.map fun t =>
        (t.name, Json.ofStrings ((a.redis.configData t).toOption.getD .empty))).map
          fun e => (e.1, contentHash e.2) := by
    rw [Redis.configTemplates]
    simp only [List.map_cons, List.map_nil, w.scriptsData_eq, w.configData_eq]
    rfl
  rw [Owned.inputs, hconfig, ← InputHashes.insertAll_append, ← List.map_append,
    InputHashes.insertAll_empty]
  rfl

/-- Objects of which none is a service or the workload all come to be in place. -/
theorem stop_eq_none {os : List SubResource} {as : List (Except ControlError Applied)}
    {stop : Option Ending} (h : ApplyRun os as stop)
    (hkind : ∀ k ∈ os.map (·.kind), k ∉ [Kind.service, .statefulSet])
    (answers : ∀ e ∈ applyEvents os as, a.Answers e) : stop = none := by
  refine h.stop_eq_none ?_
  intro o ho x hx
  exact answers _ hx (hkind _ (List.mem_map_of_mem ho))

/-- Nothing keeps a pass from gathering the inputs, and they are those of the situation. -/
theorem gathering_eq {w : Owned a.redis} {events : Trace} {ms : List Mark}
    {x : Progress InputHashes} (h : Gathering w events ms x)
    (answers : ∀ e ∈ events, a.Answers e) : x = .proceed a.inputs := by
  have hpermissions : ∀ k ∈ (w.permissions.map (·.resource)).map (·.kind),
      k ∉ [Kind.service, .statefulSet] := by
    rw [kind_permissions]
    decide
  have hconfigMaps : ∀ k ∈ (w.configMaps.map (·.1)).map (·.kind),
      k ∉ [Kind.service, .statefulSet] := by
    rw [kind_configMaps]
    decide
  cases h with
  | permissions permissions => cases stop_eq_none permissions hpermissions answers
  | tlsInputs _ tlsInputs =>
    rw [List.forall_mem_append] at answers
    cases runs_tlsInputHashes tlsInputs answers.2
  | configMaps _ tlsInputs configMaps =>
    rw [List.forall_mem_append, List.forall_mem_append] at answers
    obtain rfl := stop_eq_none configMaps hconfigMaps answers.2.2
    obtain rfl := Except.ok.inj (runs_tlsInputHashes tlsInputs answers.2.1)
    rw [inputs_eq]
    rfl

/-- Whatever comes after the inputs, the aggregate is recorded in the end. -/
theorem get?_aggregate {settings : Settings} {w : Owned a.redis} {recorded hash : StringMap String}
    {events : Trace} {ms : List Mark} {x : Progress Outcome}
    (h : WorkCourse settings w recorded events ms hash x) (answers : ∀ e ∈ events, a.Answers e) :
    hash.get? InputName.aggregate = some a.inputs.aggregate := by
  cases h with
  | stopped gathering => cases gathering_eq gathering answers
  | recorded gathered differs =>
    obtain rfl := Progress.proceed.inj (gathering_eq gathered answers)
    exact InputHashes.get?_of_compare differs
  | services gathered agrees _ | workload gathered agrees _ =>
    rw [List.forall_mem_append] at answers
    obtain rfl := Progress.proceed.inj (gathering_eq gathered answers.1)
    exact InputHashes.compare_eq_none_iff.1 agrees

/-- A cluster in which the situation obtains. -/
def cluster (a : Situation) : SteadyCluster where
  metadata := a.redis.metadata
  spec := a.redis.spec
  secret := fun ns name => .ok (a.secret ns name)
  applied := fun _ => .ok (.converged .unchanged none)

theorem answers_of_cluster {e : Event Cluster} (h : a.cluster.Answers e) : a.Answers e := by
  obtain ⟨c, x⟩ := e
  cases c with
  | getSecret ns name => exact h.getSecret
  | apply o =>
    intro _
    rw [h.apply]
    rfl
  | _ => trivial

theorem computes (a : Situation) : a.Computes a.inputs.aggregate := by
  intro settings s hs
  refine ⟨?_, ?_⟩
  · exact ⟨_, _, runs_transcript (a.cluster.handler toString) _ (none, 0),
      fun e he => answers_of_cluster (SteadyCluster.answers_of_mem_transcript he)⟩
  · intro t x s' run answers
    have hsteps := runs_converge run
    have hexchange : ∀ e ∈ Trace.exchange t, a.Answers e :=
      fun e he => answers e (List.mem_filter.1 he).1
    generalize Trace.exchange t = events at hsteps hexchange
    generalize x.ending = ending at hsteps
    cases hsteps with
    | filled empty _ =>
      rw [hs] at empty
      cases empty
    | unowned _ unowned =>
      obtain ⟨w⟩ := Redis.owned_of_isComplete a.complete
      rw [w.permissionObjects_eq] at unowned
      cases unowned
    | worked _ course _ => exact get?_aggregate course hexchange

/-! ## The contents of the inputs -/

theorem isSome_certificateData (a : Situation) :
    a.certificateData.isSome = a.redis.spec.tls.enabled :=
  isSome_dataOf (Secret.hashesData_certificateHash _) a.certificate

theorem isSome_caBundleData (a : Situation) :
    a.caBundleData.isSome = a.redis.spec.tls.caBundle?.isSome :=
  isSome_dataOf Secret.hashesData_caBundleHash a.caBundle

/-- The scripts of an instance, whatever their config map is called. -/
def scripts (a : Situation) : StringMap String :=
  (a.redis.configData ⟨a.redis.scriptsName, .scripts, .empty⟩).toOption.getD .empty

/-- The configuration of the server, the text of the user at its end. -/
def serverFile (a : Situation) : String :=
  a.redis.serverText ++ a.redis.spec.customConfig.getD ""

theorem contents_eq (a : Situation) : a.contents =
    secretContent InputName.certificate a.certificateData ++
      secretContent InputName.caBundle a.caBundleData ++
      [(a.redis.scriptsName, .ofStrings a.scripts),
        (a.redis.configDataName,
          .ofStrings (StringMap.empty.insert "redis.conf" a.serverFile))] := by
  rw [contents, Redis.configTemplates, List.map_cons, List.map_cons, List.map_nil,
    a.redis.configData_config]
  rfl

theorem names_contents (a : Situation) : a.contents.map (·.1) = a.redis.inputNames := by
  have hsecret : ∀ (input : String) (data : Option (StringMap (List UInt8))),
      (secretContent input data).map (·.1) = if data.isSome then [input] else [] := by
    intro input data
    cases data <;> rfl
  rw [contents_eq, List.map_append, List.map_append, hsecret, hsecret, isSome_certificateData,
    isSome_caBundleData, Redis.inputNames, Redis.secretInputNames_eq]
  rfl

theorem contains_inputs {k : String} :
    a.inputs.byName.contains k = true ↔ k ∈ a.redis.inputNames := by
  rw [inputs, InputHashes.ofList, StringMap.contains_ofList, List.map_map, ← names_contents]
  rfl

theorem get?_inputs {k : String} {j : Json} (h : (k, j) ∈ a.contents) :
    a.inputs.byName.get? k = some (contentHash j) := by
  refine StringMap.get?_ofList_of_mem ?_ (List.mem_map.2 ⟨(k, j), h, rfl⟩)
  rw [List.map_map]
  show (a.contents.map (·.1)).Nodup
  rw [names_contents]
  exact (List.nodup_cons.1 a.redis.nodup_inputNames).2

/-! ## From the inputs to the aggregates -/

theorem name_eq (a b : Situation) (h : a.redis.metadata.name = b.redis.metadata.name) :
    a.redis.name = b.redis.name := by
  have hname := a.complete.name_eq
  rw [h, b.complete.name_eq] at hname
  exact (Option.some.inj hname).symm

/-- Options of which both or neither is there are equal if they are where the first is there. -/
theorem eq_of_isSome {α : Type} {x y : Option α} (hsome : x.isSome = y.isSome)
    (h : x.isSome = true → x = y) : x = y := by
  cases x with
  | some d => exact h rfl
  | none =>
    cases y with
    | none => rfl
    | some d => cases hsome

theorem SameInputs.contents_eq (h : SameInputs a b)
    (hname : a.redis.metadata.name = b.redis.metadata.name) : a.contents = b.contents := by
  have hcertificate : a.certificateData = b.certificateData := by
    refine eq_of_isSome ?_ ?_
    · rw [isSome_certificateData, isSome_certificateData, h.secure]
    · rw [isSome_certificateData]
      exact h.certificate
  have hcaBundle : a.caBundleData = b.caBundleData := by
    refine eq_of_isSome ?_ ?_
    · rw [isSome_caBundleData, isSome_caBundleData, h.bundled]
    · rw [isSome_caBundleData]
      exact h.caBundle
  have hnames := a.name_eq b hname
  have hscripts : a.scripts = b.scripts := by
    rw [scripts, scripts, Redis.scriptsData_congr h.secure h.bundled]
  have hserver : a.serverFile = b.serverFile := by
    rw [serverFile, serverFile, Redis.serverText_congr h.secure h.bundled, h.custom]
  rw [Situation.contents_eq, Situation.contents_eq, hcertificate, hcaBundle, hscripts, hserver,
    Redis.scriptsName, Redis.configDataName, hnames]
  rfl

/-! ## From the aggregates to the inputs -/

variable (a b) in
/-- Two of the texts that are hashed in the situations are different and have one digest. -/
def Collides : Prop := ∃ j ∈ a.hashed, ∃ k ∈ b.hashed, Collision j.bytes k.bytes

theorem inputs_eq_of_aggregate (h : a.inputs.aggregate = b.inputs.aggregate)
    (hc : ¬ Collides a b) : a.inputs = b.inputs := by
  rcases InputHashes.aggregate_eq h with he | hcollision
  · exact he
  · refine absurd ⟨_, ?_, _, ?_, hcollision⟩ hc
    · exact List.mem_append_right _ (List.mem_singleton_self _)
    · exact List.mem_append_right _ (List.mem_singleton_self _)

/-- Where the hashes are the same, so is the content under each name. -/
theorem content_eq (h : a.inputs = b.inputs) (hc : ¬ Collides a b) {k : String} {j j' : Json}
    (hj : (k, j) ∈ a.contents) (hj' : (k, j') ∈ b.contents) : j = j' := by
  have hhash : contentHash j = contentHash j' := by
    have ha := get?_inputs hj
    rw [h, get?_inputs hj'] at ha
    exact (Option.some.inj ha).symm
  rcases contentHash_eq_iff.1 hhash with he | hcollision
  · exact he
  · refine absurd ⟨j, ?_, j', ?_, hcollision⟩ hc
    · exact List.mem_append_left _ (List.mem_map_of_mem hj)
    · exact List.mem_append_left _ (List.mem_map_of_mem hj')

theorem certificate_mem_contents {data : StringMap (List UInt8)}
    (h : a.certificateData = some data) :
    (InputName.certificate, .ofMap Secret.writeBytes data) ∈ a.contents := by
  rw [contents, h]
  exact List.mem_append_left _ (List.mem_append_left _ (List.mem_singleton_self _))

theorem caBundle_mem_contents {data : StringMap (List UInt8)} (h : a.caBundleData = some data) :
    (InputName.caBundle, .ofMap Secret.writeBytes data) ∈ a.contents := by
  rw [contents, h]
  exact List.mem_append_left _ (List.mem_append_right _ (List.mem_singleton_self _))

theorem serverFile_mem_contents (a : Situation) :
    (a.redis.configDataName, .ofStrings (StringMap.empty.insert "redis.conf" a.serverFile)) ∈
      a.contents := by
  rw [contents_eq]
  exact List.mem_append_right _ (List.mem_cons_of_mem _ (List.mem_singleton_self _))

theorem sameInputs_of_inputs_eq (h : a.inputs = b.inputs) (hc : ¬ Collides a b)
    (hname : a.redis.metadata.name = b.redis.metadata.name) : SameInputs a b := by
  -- Which inputs there are tells what is switched on.
  have hnames : ∀ k, k ∈ a.redis.inputNames ↔ k ∈ b.redis.inputNames := by
    intro k
    rw [← contains_inputs, ← contains_inputs, h]
  have hsecure : a.redis.spec.tls.enabled = b.redis.spec.tls.enabled := by
    have hiff := hnames InputName.certificate
    rw [Redis.certificate_mem_inputNames, Redis.certificate_mem_inputNames] at hiff
    exact Bool.eq_iff_iff.2 hiff
  have hbundled : a.redis.spec.tls.caBundle?.isSome = b.redis.spec.tls.caBundle?.isSome := by
    have hiff := hnames InputName.caBundle
    rw [Redis.caBundle_mem_inputNames, Redis.caBundle_mem_inputNames] at hiff
    exact Bool.eq_iff_iff.2 hiff
  refine ⟨hsecure, hbundled, ?_, ?_, ?_⟩
  · intro he
    obtain ⟨data, ha⟩ := Option.isSome_iff_exists.1 ((isSome_certificateData a).trans he)
    obtain ⟨data', hb⟩ :=
      Option.isSome_iff_exists.1 ((isSome_certificateData b).trans (hsecure ▸ he))
    have hcontent := content_eq h hc (certificate_mem_contents ha) (certificate_mem_contents hb)
    rw [ha, hb, Secret.ofMap_writeBytes_injective hcontent]
  · intro he
    obtain ⟨data, ha⟩ := Option.isSome_iff_exists.1 ((isSome_caBundleData a).trans he)
    obtain ⟨data', hb⟩ :=
      Option.isSome_iff_exists.1 ((isSome_caBundleData b).trans (hbundled ▸ he))
    have hcontent := content_eq h hc (caBundle_mem_contents ha) (caBundle_mem_contents hb)
    rw [ha, hb, Secret.ofMap_writeBytes_injective hcontent]
  · have hb := serverFile_mem_contents b
    rw [Redis.configDataName, ← a.name_eq b hname] at hb
    have hfile := Json.ofStrings_injective (content_eq h hc (serverFile_mem_contents a) hb)
    -- Of the configuration only the text of the user is left to differ.
    have hget := congrArg (StringMap.get? · "redis.conf") hfile
    simp only [StringMap.get?_insert, if_true, Option.some.injEq] at hget
    rw [serverFile, serverFile, Redis.serverText_congr hsecure hbundled] at hget
    exact String.append_right_inj _ |>.1 hget

end Situation

/-! ## The theorem -/

open Situation in
/-- **The aggregate is a faithful fingerprint.** For two instances with one name whose secrets are
valid, passes compute an aggregate, and it is the same for both if and only if they agree in the
four things, unless two of the texts that were hashed are different and have one digest. -/
theorem aggregate_faithful (a b : Situation)
    (hname : a.redis.metadata.name = b.redis.metadata.name) :
    a.Computes a.inputs.aggregate ∧ b.Computes b.inputs.aggregate ∧
      (SameInputs a b → a.inputs.aggregate = b.inputs.aggregate) ∧
      (a.inputs.aggregate = b.inputs.aggregate →
        SameInputs a b ∨ ∃ j ∈ a.hashed, ∃ k ∈ b.hashed, Collision j.bytes k.bytes) := by
  refine ⟨a.computes, b.computes, ?_, ?_⟩
  · intro h
    rw [inputs, inputs, h.contents_eq hname]
  · intro h
    by_cases hc : Collides a b
    · exact Or.inr hc
    · exact Or.inl (sameInputs_of_inputs_eq (inputs_eq_of_aggregate h hc) hc hname)

/-- An instance whose clients connect securely, with a number of replicas and text of the user. -/
def Situation.secured (replicas : Int32) (custom : Option String) : Situation where
  redis := {
    metadata := { name := some "cache", ns := some "demo", uid := some "1" }
    spec := { replicas, tls := { secretName := some "cache-tls" }, customConfig := custom }
    status := none }
  secret := fun _ _ => some {
    data := some (.ofList [("ca.crt", [1]), ("tls.crt", [2]), ("tls.key", [3])])
    immutable := none
    metadata := .empty
    stringData := none
    type := none }
  complete := ⟨rfl, rfl, rfl⟩
  certificate := fun _ _ => ⟨_, _, rfl, rfl⟩
  caBundle := fun _ h => by cases h

/-- Another number of replicas and an empty text make no difference; a text does, or there is a
collision. -/
theorem aggregate_faithful_secured :
    let a := Situation.secured 1 none
    let b := Situation.secured 3 (some "")
    let c := Situation.secured 1 (some "maxmemory 1gb")
    a.Computes b.inputs.aggregate ∧ (a.inputs.aggregate = c.inputs.aggregate →
      ∃ j ∈ a.hashed, ∃ k ∈ c.hashed, Collision j.bytes k.bytes) := by
  intro a b c
  obtain ⟨ha, -, hsame, -⟩ := aggregate_faithful a b rfl
  obtain ⟨-, -, -, hdiffers⟩ := aggregate_faithful a c rfl
  refine ⟨?_, ?_⟩
  · rw [← hsame ⟨rfl, rfl, fun _ => rfl, fun _ => rfl, rfl⟩]
    exact ha
  · intro h
    rcases hdiffers h with hsame | hcollision
    · exact absurd hsame.custom (by decide)
    · exact hcollision

end RedisControl
