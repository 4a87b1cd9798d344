import RedisControl.Proofs.PassPlan
import RedisControl.Proofs.RecordedInputs

/-!
# What two instances have in common

**Theorem (`shared_objects`).** Take a pass over each of two instances with different names or in
different namespaces. No object is applied by both, with one exception: the headless service of an
instance is the client service of another if the other is called so, in the same namespace. Then
passes that are done have both applied it, each as it should be for its own instance, so that the
later one undoes what the earlier one did.

The names of owned objects are the name of the instance with something before or after it. Two
names that start or end alike come from one name. Only two kinds occur twice: config maps, of which
the names end differently, and services, of which one has nothing added to its name, so that it can
be called as the other kind of service of another instance.
-/

namespace RedisControl

open Program

/-! ## The names of owned objects -/

namespace Redis

variable {r r' : Redis}

/-- The names of the objects of a kind that an instance owns. -/
def objectNames (r : Redis) : Kind → List String
  | .serviceAccount => [r.serviceAccountName]
  | .role => [r.roleName]
  | .roleBinding => [r.roleBindingName]
  | .configMap => [r.scriptsName, r.configDataName]
  | .service => [r.headlessServiceName, r.name]
  | .statefulSet => [r.name]

/-- The instance `r'` is called as the headless service of `r` is, in the same namespace. -/
structure Shadows (r' r : Redis) : Prop where
  ns : r'.metadata.ns = r.metadata.ns
  name : r'.metadata.name = some r.headlessServiceName

theorem scriptsName_ne_configDataName (r r' : Redis) : r.scriptsName ≠ r'.configDataName := by
  intro h
  have hend := congrArg nameEnd h
  rw [nameEnd_scriptsName, nameEnd_configDataName] at hend
  revert hend
  decide

/-- Instances of which objects of one kind have one name have one name themselves, or one is
called as the headless service of the other. -/
theorem name_eq_or {k : Kind} {n : String} (h : n ∈ r.objectNames k) (h' : n ∈ r'.objectNames k) :
    r.name = r'.name ∨ k = .service ∧
      (n = r.headlessServiceName ∧ n = r'.name ∨ n = r'.headlessServiceName ∧ n = r.name) := by
  have hrbac : r.rbacResourceName = r'.rbacResourceName → r.name = r'.name :=
    (String.append_right_inj _).1
  have hend : ∀ {suffix}, r.name ++ suffix = r'.name ++ suffix → r.name = r'.name :=
    (String.append_left_inj _).1
  -- Names of one kind start or end with one text, which can be taken away; only services have a
  -- name without one beside a name with one.
  cases k with
  | serviceAccount =>
    have he := (List.mem_singleton.1 h).symm.trans (List.mem_singleton.1 h')
    exact Or.inl (hrbac he)
  | role | roleBinding =>
    have he := (List.mem_singleton.1 h).symm.trans (List.mem_singleton.1 h')
    exact Or.inl (hrbac ((String.append_left_inj _).1 he))
  | configMap =>
    simp only [objectNames, List.mem_cons, List.not_mem_nil, or_false] at h h'
    rcases h with rfl | rfl <;> rcases h' with he | he
    · exact Or.inl (hend he)
    · exact absurd he (scriptsName_ne_configDataName r r')
    · exact absurd he.symm (scriptsName_ne_configDataName r' r)
    · exact Or.inl (hend he)
  | service =>
    simp only [objectNames, List.mem_cons, List.not_mem_nil, or_false] at h h'
    rcases h with rfl | rfl <;> rcases h' with he | he
    · exact Or.inl (hend he)
    · exact Or.inr ⟨rfl, Or.inl ⟨rfl, he⟩⟩
    · exact Or.inr ⟨rfl, Or.inr ⟨he, rfl⟩⟩
    · exact Or.inl he
  | statefulSet =>
    exact Or.inl ((List.mem_singleton.1 h).symm.trans (List.mem_singleton.1 h'))

theorem apply_mem_plan {h : Handle} : Ask.apply h ∈ r.plan.map Stage.ask ↔
    h.ns = r.metadata.ns.getD "" ∧ h.name ∈ r.objectNames h.kind := by
  have hreads : Ask.apply h ∉ r.readPlan.map Stage.ask := by
    rw [readPlan, List.map_append, List.map_map, List.map_map, List.mem_append]
    rintro (hmem | hmem) <;> obtain ⟨name, -, he⟩ := List.mem_map.1 hmem <;> cases he
  obtain ⟨k, ns, name⟩ := h
  simp only [plan, gatheringPlan, deployingPlan, List.map_append, List.mem_append, hreads,
    false_or, List.map_cons, List.map_nil, List.mem_cons, List.not_mem_nil, or_false, applyStage,
    Stage.ask, Ask.apply.injEq, Handle.mk.injEq]
  cases k <;> simp [objectNames, and_or_left]

end Redis

/-! ## What a pass applies -/

/-- The objects that were applied. -/
def Trace.objects (t : Trace) : List SubResource := (applications t).map (·.1)

def Trace.handles (t : Trace) : List Handle := (objects t).map (·.handle)

theorem Trace.objects_append (t u : Trace) : objects (t ++ u) = objects t ++ objects u := by
  rw [objects, applications_append, List.map_append]
  rfl

theorem Trace.objects_of_exchange {t events : Trace} {ns name : String} {r : Redis}
    {writes : List (Redis × Except ControlError Unit)}
    (h : exchange t = ⟨.getRedis ns name, .ok (some r)⟩ :: (events ++ writes.map writeEvent)) :
    objects t = objects events := by
  rw [objects, applications_of_exchange h, ← objects]

theorem ApplyRun.objects_eq {os : List SubResource} {as : List (Except ControlError Applied)}
    (h : ApplyRun os as none) : Trace.objects (applyEvents os as) = os := by
  rw [Trace.objects, applications_applyEvents]
  exact List.map_fst_zip (Nat.le_of_eq h.length_eq.symm)

theorem Trace.mem_handles {t : Trace} {h : Handle} : h ∈ handles t ↔ Ask.apply h ∈ asks t := by
  constructor
  · intro hmem
    obtain ⟨o, ho, rfl⟩ := List.mem_map.1 hmem
    obtain ⟨⟨o, a⟩, ha, rfl⟩ := List.mem_map.1 ho
    exact List.mem_filterMap.2 ⟨_, mem_applications.1 ha, rfl⟩
  · intro hmem
    obtain ⟨e, he, hask⟩ := List.mem_filterMap.1 hmem
    obtain ⟨c, x⟩ := e
    cases c <;> cases hask
    exact List.mem_map_of_mem (List.mem_map_of_mem (mem_applications.2 he))

theorem FinalRun.eq_done {r : Redis} {s : Status} {body : Ending}
    {writes : List (Redis × Except ControlError Unit)} (h : FinalRun r s body writes (.ok .done)) :
    body = .ok .done := by
  generalize he : (.ok .done : Ending) = e at h
  cases h with
  | unchanged _ => rfl
  | @written now a _ =>
    cases a with
    | ok u => rfl
    | error failure => cases he

theorem Owned.headless_ne_client {r r' : Redis} (w : Owned r) (w' : Owned r') :
    w.headless ≠ w'.client := by
  intro h
  have hbody := congrArg SubResource.body h
  simp [headless, client] at hbody

theorem WorkCourse.services_subset {settings : Settings} {r : Redis} {w : Owned r}
    {recorded hash : StringMap String} {events : Trace} {ms : List Mark} {x : Progress Outcome}
    (h : WorkCourse settings w recorded events ms hash x) (hx : x.ending = .ok .done) :
    w.services ⊆ Trace.objects events := by
  cases h with
  | stopped gathering =>
    rcases gathering.follows.ending_cases with ⟨error, rfl⟩ | ⟨d, rfl⟩ <;> cases hx
  | recorded _ _ => cases hx
  | services _ _ services =>
    rcases services.follows.ending_cases with ⟨error, rfl⟩ | ⟨d, rfl⟩ <;> cases hx
  | workload _ _ services =>
    rw [Trace.objects_append, Trace.objects_append, services.objects_eq]
    exact List.subset_append_of_subset_right _ (List.subset_append_left _ _)

section Pass

variable {settings : Settings} {ns name : String} {t : Trace} {e : Ending} {r : Redis}

/-- What a pass applies are objects of the instance, which is complete then. -/
theorem mem_objectNames_of_runs (run : Runs (pass settings ns name) t e)
    (hr : r ∈ Trace.redises t) {h : Handle} (hh : h ∈ Trace.handles t) :
    r.IsComplete ∧ h.ns = r.metadata.ns.getD "" ∧ h.name ∈ r.objectNames h.kind := by
  obtain ⟨events, s, body, writes, steps, -, hexchange⟩ := exists_steps_of_runs run hr
  rw [Trace.handles, Trace.objects_of_exchange hexchange, ← Trace.handles,
    Trace.mem_handles] at hh
  have hcomplete : r.IsComplete := by
    cases steps with
    | filled _ _ | unowned _ _ => cases hh
    | @worked w _ _ _ _ _ _ _ _ => exact Redis.isComplete_of_owned w
  exact ⟨hcomplete, Redis.apply_mem_plan.1 ((steps.planRun hcomplete).asks_isPrefix.subset hh)⟩

theorem exists_services_of_done (run : Runs (pass settings ns name) t (.ok .done))
    (hr : r ∈ Trace.redises t) : ∃ w : Owned r, w.services ⊆ Trace.objects t := by
  obtain ⟨events, s, body, writes, steps, finalized, hexchange⟩ := exists_steps_of_runs run hr
  rw [Trace.objects_of_exchange hexchange]
  obtain rfl := finalized.eq_done
  generalize hbody : (.ok .done : Ending) = body at steps
  cases steps with
  | filled _ _ | unowned _ _ => cases hbody
  | @worked w _ _ _ _ _ _ course _ => exact ⟨w, course.services_subset hbody.symm⟩

end Pass

/-! ## The theorem -/

/-- **What two instances have in common.** Passes over two instances apply no object in common but
the headless service of one where the other is called so. When they are done, they have both
applied that one, and not the same content. -/
theorem shared_objects {settings settings' : Settings} {ns name ns' name' : String} {t t' : Trace}
    {e e' : Ending} (run : Runs (pass settings ns name) t e)
    (run' : Runs (pass settings' ns' name') t' e') {r r' : Redis} (hr : r ∈ Trace.redises t)
    (hr' : r' ∈ Trace.redises t')
    (hne : (r.metadata.ns, r.metadata.name) ≠ (r'.metadata.ns, r'.metadata.name)) :
    (∀ h ∈ Trace.handles t, h ∈ Trace.handles t' →
      r'.Shadows r ∧ h = ⟨.service, r.metadata.ns.getD "", r.headlessServiceName⟩ ∨
      r.Shadows r' ∧ h = ⟨.service, r'.metadata.ns.getD "", r'.headlessServiceName⟩) ∧
    (e = .ok .done → e' = .ok .done → r'.Shadows r →
      ∃ o ∈ Trace.objects t, ∃ o' ∈ Trace.objects t', o ≠ o' ∧
        o.handle = ⟨.service, r.metadata.ns.getD "", r.headlessServiceName⟩ ∧
        o'.handle = ⟨.service, r.metadata.ns.getD "", r.headlessServiceName⟩) := by
  refine ⟨?_, ?_⟩
  · intro ⟨k, hns, n⟩ hh hh'
    obtain ⟨hcomplete, rfl, hname⟩ := mem_objectNames_of_runs run hr hh
    obtain ⟨hcomplete', hns', hname'⟩ := mem_objectNames_of_runs run' hr' hh'
    have hsame : r.metadata.ns = r'.metadata.ns := by
      rw [hcomplete.ns_eq, hcomplete'.ns_eq]
      exact congrArg some hns'
    -- With one name the instances would be the same, as they have one namespace.
    rcases Redis.name_eq_or hname hname' with heq | ⟨rfl, ⟨rfl, heq⟩ | ⟨rfl, heq⟩⟩
    · refine absurd ?_ hne
      rw [hsame, hcomplete.name_eq, hcomplete'.name_eq, heq]
    · refine Or.inl ⟨⟨hsame.symm, ?_⟩, rfl⟩
      exact hcomplete'.name_eq.trans (congrArg some heq.symm)
    · refine Or.inr ⟨⟨hsame, ?_⟩, ?_⟩
      · exact hcomplete.name_eq.trans (congrArg some heq.symm)
      · rw [hsame]
  · intro hdone hdone' hshadows
    subst hdone hdone'
    obtain ⟨w, hservices⟩ := exists_services_of_done run hr
    obtain ⟨w', hservices'⟩ := exists_services_of_done run' hr'
    have hname : r'.name = r.headlessServiceName := by
      have hname := (Redis.isComplete_of_owned w').name_eq
      rw [hshadows.name] at hname
      exact (Option.some.inj hname).symm
    have hclient : w'.client.handle =
        ⟨.service, r.metadata.ns.getD "", r.headlessServiceName⟩ := by
      rw [← hshadows.ns, ← hname]
      exact w'.handle_eq r'.name _
    exact ⟨w.headless, hservices List.mem_cons_self, w'.client,
      hservices' (List.mem_cons_of_mem _ (List.mem_singleton_self _)),
      w.headless_ne_client w', w.handle_eq _ _, hclient⟩

namespace SteadyCluster

/-- An instance with a name, in a cluster that goes along with everything. -/
def named (name : String) : SteadyCluster :=
  { plain fun _ => .ok (.converged .created none) with
    metadata := { name := some name, ns := some "demo", uid := some "1" } }

theorem named_goesAlong (name : String) : (named name).GoesAlong where
  complete := ⟨rfl, rfl, rfl⟩
  certificate := fun _ h => by cases h
  caBundle := fun _ h => by cases h
  applied := fun _ => rfl

/-- The third pass over an instance with a name. -/
def thirdPass (name : String) : PassRecord :=
  (named name).round toString .default "demo" name none 2

theorem runs_thirdPass (name : String) :
    Runs (pass .default "demo" name) (thirdPass name).trace (.ok .done) := by
  have hdone : (thirdPass name).ending = .ok .done :=
    (named_goesAlong name).ending_eq_done (Nat.le_refl 2)
  rw [← hdone]
  exact runs_round 2

theorem mem_redises_thirdPass (name : String) :
    (named name).redis (thirdPass name).stored ∈ Trace.redises (thirdPass name).trace := by
  rw [thirdPass, redises_round]
  exact List.mem_singleton_self _

end SteadyCluster

open SteadyCluster

theorem shared_objects_cache :
    (∀ h ∈ Trace.handles (thirdPass "cache").trace,
      h ∉ Trace.handles (thirdPass "store").trace) ∧
      ∃ o ∈ Trace.objects (thirdPass "cache").trace,
        ∃ o' ∈ Trace.objects (thirdPass "cache-headless").trace, o ≠ o' ∧
          o.handle = ⟨.service, "demo", "cache-headless"⟩ ∧
          o'.handle = ⟨.service, "demo", "cache-headless"⟩ := by
  refine ⟨?_, ?_⟩
  · intro h hcache hstore
    obtain ⟨hshared, -⟩ := shared_objects (runs_thirdPass "cache") (runs_thirdPass "store")
      (mem_redises_thirdPass "cache") (mem_redises_thirdPass "store") (by decide)
    rcases hshared h hcache hstore with ⟨hshadows, -⟩ | ⟨hshadows, -⟩
    · exact absurd hshadows.name (by decide)
    · exact absurd hshadows.name (by decide)
  · obtain ⟨-, hboth⟩ := shared_objects (runs_thirdPass "cache") (runs_thirdPass "cache-headless")
      (mem_redises_thirdPass "cache") (mem_redises_thirdPass "cache-headless") (by decide)
    exact hboth rfl rfl ⟨rfl, rfl⟩

/-- Instances can have an object in common: `cache` and `cache-headless` share a service. -/
theorem not_all_separate : ¬ ∀ (settings settings' : Settings) (ns name ns' name' : String)
    (t t' : Trace) (e e' : Ending) (r r' : Redis), Runs (pass settings ns name) t e →
    Runs (pass settings' ns' name') t' e' → r ∈ Trace.redises t → r' ∈ Trace.redises t' →
    r.IsComplete → r'.IsComplete →
    (r.metadata.ns, r.metadata.name) ≠ (r'.metadata.ns, r'.metadata.name) →
    ∀ h ∈ Trace.handles t, h ∉ Trace.handles t' := by
  intro hall
  obtain ⟨w, hcache⟩ := exists_services_of_done (runs_thirdPass "cache")
    (mem_redises_thirdPass "cache")
  obtain ⟨w', hother⟩ := exists_services_of_done (runs_thirdPass "cache-headless")
    (mem_redises_thirdPass "cache-headless")
  have hheadless : w.headless.handle = ⟨.service, "demo", "cache-headless"⟩ := w.handle_eq _ _
  have hclient : w'.client.handle = ⟨.service, "demo", "cache-headless"⟩ := w'.handle_eq _ _
  refine hall _ _ _ _ _ _ _ _ _ _ _ _ (runs_thirdPass "cache") (runs_thirdPass "cache-headless")
    (mem_redises_thirdPass "cache") (mem_redises_thirdPass "cache-headless")
    (Redis.isComplete_of_owned w) (Redis.isComplete_of_owned w') (by decide)
    w.headless.handle ?_ ?_
  · exact List.mem_map_of_mem (hcache List.mem_cons_self)
  · rw [hheadless, ← hclient]
    exact List.mem_map_of_mem (hother (List.mem_cons_of_mem _ (List.mem_singleton_self _)))

end RedisControl
