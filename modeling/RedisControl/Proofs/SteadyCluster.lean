import RedisControl.Proofs.History

/-!
# A cluster that does not change

A steady cluster answers every call in one fixed way: an instance with fixed metadata and spec,
secrets and applications by fixed functions, and a status that is what the last write left. Only
the clock goes on. Pass after pass over such a cluster is a history like any other.

* `SteadyCluster.handler` : how it answers.
* `SteadyCluster.round` : the passes, one after the other.
* `SteadyCluster.history_rounds` : they make up a history.
* `SteadyCluster.answers_of_mem` : every event of a round is an answer of the cluster.
-/

namespace RedisControl

open Program

/-- A cluster that answers in one fixed way. -/
structure SteadyCluster where
  metadata : ObjectMeta
  spec : Spec
  secret : (ns name : String) → Except ControlError (Option Secret)
  applied : SubResource → Except ControlError Applied

namespace SteadyCluster

variable (c : SteadyCluster) (clock : Nat → Time)

def redis (stored : Option Status) : Redis := ⟨c.metadata, c.spec, stored⟩

/-- How the cluster answers, from the stored status and the number of times that the clock was
looked at. -/
def handler : Handler Cluster (Option Status × Nat)
  | .getRedis _ _, s => (.ok (some (c.redis s.1)), s)
  | .getSecret ns name, s => (c.secret ns name, s)
  | .patchStatus r, s => (.ok (), (r.status, s.2))
  | .apply o, s => (c.applied o, s)
  | .now, s => (clock s.2, (s.1, s.2 + 1))

/-- The event is an answer of the cluster, with some status stored and at some time. -/
def Answers (e : Event Cluster) : Prop := ∃ s τ, e.answer = (c.handler (fun _ => τ) e.call s).1

/-! ## Rounds -/

variable (settings : Settings) (ns name : String) (first : Option Status)

/-- The stored status and the state of the clock after a number of passes. -/
def after : Nat → Option Status × Nat
  | 0 => (first, 0)
  | n + 1 => ((pass settings ns name).run (c.handler clock) (after n)).2

/-- The passes, one after the other. -/
def round (n : Nat) : PassRecord where
  settings := settings
  stored := (c.after clock settings ns name first n).1
  trace := (pass settings ns name).transcript (c.handler clock) (c.after clock settings ns name first n)
  ending := ((pass settings ns name).run (c.handler clock) (c.after clock settings ns name first n)).1

variable {c clock settings ns name first}

theorem answers_of_mem_transcript {α : Type} {p : Program Cluster α} {s : Option Status × Nat}
    {e : Event Cluster} (he : e ∈ p.transcript (c.handler clock) s) : c.Answers e := by
  obtain ⟨⟨stored, n⟩, hanswer⟩ := exists_of_mem_transcript he
  refine ⟨(stored, n), clock n, hanswer.trans ?_⟩
  cases e.call <;> rfl

theorem answers_of_mem {n : Nat} {e : Event Cluster}
    (he : e ∈ (c.round clock settings ns name first n).trace) : c.Answers e :=
  answers_of_mem_transcript he

/-- What a program leaves in the store is what its writes left. -/
theorem stored_run {α : Type} (p : Program Cluster α) (s : Option Status × Nat) :
    (p.run (c.handler clock) s).2.1 =
      (Trace.statusWrites (p.transcript (c.handler clock) s)).foldl PassRecord.storedOf s.1 := by
  induction p generalizing s with
  | done a => rfl
  | call call next ih =>
    cases call with
    | patchStatus r => exact ih _ _
    | getRedis ns name | getSecret ns name | apply o | now => exact ih _ _

theorem stored_succ (n : Nat) :
    (c.round clock settings ns name first (n + 1)).stored =
      (c.round clock settings ns name first n).storedAfter :=
  stored_run _ _

theorem runs_round (n : Nat) :
    Runs (pass settings ns name) (c.round clock settings ns name first n).trace
      (c.round clock settings ns name first n).ending := runs_transcript _ _ _

/-- The instance is read once, before anything is written. -/
theorem redises_round (n : Nat) :
    Trace.redises (c.round clock settings ns name first n).trace =
      [c.redis (c.round clock settings ns name first n).stored] := by
  rw [← Trace.redises_exchange, (runs_pass (runs_round n)).redises_eq]
  rfl

theorem isPass_round (n : Nat) : (c.round clock settings ns name first n).IsPass ns name := by
  refine ⟨runs_round n, ?_⟩
  intro r hr
  rw [redises_round] at hr
  obtain rfl := List.mem_singleton.1 hr
  rfl

theorem history_rounds (n : Nat) :
    History ns name first ((List.range n).map (c.round clock settings ns name first))
      (c.round clock settings ns name first n).stored := by
  induction n with
  | zero => exact .nil
  | succ n ih =>
    rw [List.range_succ, List.map_append, stored_succ]
    exact .snoc ih (isPass_round n)

/-! ## An example -/

/-- An instance without secrets, in a cluster where applying goes as given. -/
def plain (applied : SubResource → Except ControlError Applied) : SteadyCluster where
  metadata := { name := some "cache", ns := some "demo", uid := some "1" }
  spec := {}
  secret := fun _ _ => .ok none
  applied := applied

end SteadyCluster

end RedisControl
