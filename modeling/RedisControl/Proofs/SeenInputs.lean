import RedisControl.Proofs.Verdicts

/-!
# The inputs that a pass has seen

Which inputs a pass worked with can be read off its calls: the secrets that it read stand for the
inputs that the instance refers to, in that order, and every config map that it applied is an
input under its own name. A pass that has gathered its inputs has gathered exactly these.

* `Trace.inputs` : the inputs, each with the hash of its data, from the calls.
* `Gathering.inputs_eq` : they are those that a pass compares with the record.
-/

namespace RedisControl

open Program

/-- The input that an applied object is, if it is a config map, with the hash of its data. -/
def SubResource.configInput? (o : SubResource) : Option (String × String) :=
  match o.body with
  | .configMap (some data) => some (o.metadata.name.getD "", contentHash (.ofStrings data))
  | _ => none

namespace Trace

/-- The secrets that were read, each under the name of the input that it is, with the hash of its
data. -/
def secretInputs (r : Redis) (t : Trace) : List (String × String) :=
  r.secretInputNames.zip ((secrets t).map Secret.dataHash)

/-- The config maps that were applied, each with the hash of its data. -/
def configInputs (t : Trace) : List (String × String) :=
  (applications t).filterMap fun a => a.1.configInput?

/-- All inputs of an instance have been seen: each secret that it refers to, and its config
maps. -/
def HasInputs (r : Redis) (t : Trace) : Prop :=
  (secrets t).length = r.secretInputNames.length ∧
    (configInputs t).map (·.1) = r.configTemplates.map (·.name)

/-- The inputs that a pass over an instance has seen. -/
def inputs (r : Redis) (t : Trace) : InputHashes := .ofList (secretInputs r t ++ configInputs t)

@[simp] theorem configInputs_append (t u : Trace) :
    configInputs (t ++ u) = configInputs t ++ configInputs u := by
  rw [configInputs, applications_append, List.filterMap_append, configInputs, configInputs]

theorem configInputs_applyEvents_of_not_mem {os : List SubResource}
    (h : Kind.configMap ∉ os.map (·.kind)) (as : List (Except ControlError Applied)) :
    configInputs (applyEvents os as) = [] := by
  rw [configInputs, applications_applyEvents]
  refine List.filterMap_eq_nil_iff.2 ?_
  intro a ha
  have hk : a.1.kind ≠ .configMap := fun he =>
    h (he ▸ List.mem_map_of_mem (List.of_mem_zip ha).1)
  obtain ⟨⟨metadata, body⟩, answer⟩ := a
  cases body with
  | configMap data => exact absurd rfl hk
  | _ => rfl

theorem secrets_applyEvents (os : List SubResource) (as : List (Except ControlError Applied)) :
    secrets (applyEvents os as) = [] := by
  rw [secrets, secretAnswers_applyEvents]
  rfl

/-- What is applied after the config maps does not change the inputs. -/
theorem inputs_append_applyEvents {r : Redis} {t : Trace} {os : List SubResource}
    (h : Kind.configMap ∉ os.map (·.kind)) (as : List (Except ControlError Applied)) :
    inputs r (t ++ applyEvents os as) = inputs r t := by
  rw [inputs, secretInputs, secrets_append, secrets_applyEvents, List.append_nil,
    configInputs_append, configInputs_applyEvents_of_not_mem h, List.append_nil]
  rfl

theorem HasInputs.append_applyEvents {r : Redis} {t : Trace} (hall : HasInputs r t)
    {os : List SubResource} (h : Kind.configMap ∉ os.map (·.kind))
    (as : List (Except ControlError Applied)) : HasInputs r (t ++ applyEvents os as) := by
  rw [HasInputs, secrets_append, secrets_applyEvents, List.append_nil, configInputs_append,
    configInputs_applyEvents_of_not_mem h, List.append_nil]
  exact hall

end Trace

theorem InputHashes.byName_insertAll (l : List (String × String)) (inputs : InputHashes) :
    (inputs.insertAll l).byName = l.foldl (fun m e => m.insert e.1 e.2) inputs.byName := by
  induction l generalizing inputs with
  | nil => rfl
  | cons e l ih => exact ih (inputs.insert e.1 e.2)

theorem InputHashes.insertAll_empty (l : List (String × String)) :
    InputHashes.empty.insertAll l = .ofList l :=
  congrArg InputHashes.mk (InputHashes.byName_insertAll l .empty)

variable {r : Redis} {w : Owned r}

theorem configInputs_configMaps {cs : List (Except ControlError Applied)}
    (h : ApplyRun (w.configMaps.map (·.1)) cs none) :
    Trace.configInputs (applyEvents (w.configMaps.map (·.1)) cs) =
      (r.configTemplates.map (·.name)).zip (w.configMaps.map (·.2)) := by
  have hl : cs.length = 2 := h.length_eq
  obtain _ | ⟨a, _ | ⟨b, _ | ⟨d, cs⟩⟩⟩ := cs
  · cases hl
  · cases hl
  · show [((w.metadata r.scriptsName).name.getD "", _),
      ((w.metadata r.configDataName).name.getD "", _)] = _
    rw [w.name_metadata, w.name_metadata]
    rfl
  · simp at hl

theorem Gathering.configInputs_eq {events : Trace} {ms : List Mark} {inputs : InputHashes}
    (h : Gathering w events ms (.proceed inputs)) :
    Trace.configInputs events = (r.configTemplates.map (·.name)).zip (w.configMaps.map (·.2)) := by
  obtain ⟨as, reads, secrets, cs, -, tlsInputs, configMaps, rfl, -⟩ := h.of_proceed
  have hreads : Trace.configInputs reads = [] := by
    rw [Trace.configInputs, Trace.applications_reads (runs_tlsInputHashes_reads tlsInputs)]
    rfl
  rw [Trace.configInputs_append, Trace.configInputs_append, hreads,
    Trace.configInputs_applyEvents_of_not_mem (by rw [kind_permissions]; decide),
    configInputs_configMaps configMaps]
  rfl

/-- **A pass gathers exactly the inputs that it has seen.** -/
theorem Gathering.inputs_eq {events : Trace} {ms : List Mark} {inputs : InputHashes}
    (h : Gathering w events ms (.proceed inputs)) :
    inputs = Trace.inputs r events ∧ Trace.HasInputs r events := by
  have hconfig := h.configInputs_eq
  obtain ⟨as, reads, secrets, cs, -, tlsInputs, configMaps, rfl, rfl⟩ := h.of_proceed
  obtain ⟨hl, rfl⟩ := runs_tlsInputHashes_ok tlsInputs
  have hsecrets : Trace.secrets (applyEvents (w.permissions.map (·.resource)) as ++
      (reads ++ applyEvents (w.configMaps.map (·.1)) cs)) = Trace.secrets reads := by
    rw [Trace.secrets_append, Trace.secrets_append, Trace.secrets_applyEvents,
      Trace.secrets_applyEvents, List.nil_append, List.append_nil]
  refine ⟨?_, ?_, ?_⟩
  · rw [Trace.inputs, Trace.secretInputs, hsecrets, hconfig, ← InputHashes.insertAll_empty,
      InputHashes.insertAll_append]
    rfl
  · rw [hsecrets, hl]
  · rw [hconfig]
    rfl

end RedisControl
