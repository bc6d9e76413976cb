import ClusterClient.Proofs.Client.Reconfiguration

/-! # Clients in use

A client comes from its nodes and settings by work that is carried out on it and by settings that
are changed. Between the pieces of work no failure is counted
(`ClusterClient.Client.Reachable.fresh`), so each dispatch may try all nodes.
-/

namespace ClusterClient.Client

variable {client : Client}

/-- A client that was made and then used. -/
inductive Reachable : Client → Prop where
  | made {client : Client} {config : Config} {draws : Draws} {transport : Transport}
      (created : create config draws transport = .ok client) : Reachable client
  | worked {client : Client} {α : Type} (work : Exchange α) (reached : Reachable client) :
      Reachable (client.run work).2
  | set {client : Client} (setting : Setting) (reached : Reachable client) :
      Reachable (client.set setting).2
  /-- The files that settings are checked against become others. -/
  | edited {client : Client} (disk : Disk) (reached : Reachable client) :
      Reachable (client.use (.edit disk))

/-- A new client has no failure counted. -/
theorem create_fresh {config : Config} {draws : Draws} {transport : Transport}
    (created : create config draws transport = .ok client) : client.rotation.failures = 0 := by
  unfold create at created
  split at created
  · cases created
  · split at created
    · cases created
    · rename_i started
      cases created
      exact (Rotation.start?_spec started).1

/-- Work leaves no failure counted. -/
theorem run_fresh {α : Type} (work : Exchange α) (fresh : client.rotation.failures = 0) :
    (client.run work).2.rotation.failures = 0 := by
  induction work generalizing client with
  | done value => exact fresh
  | send call next ih =>
      obtain ⟨last, run⟩ := dispatch_run call client
      exact ih _ run.failures
  | note event next ih => exact ih fresh

/-- **No failure is counted on a client in use.** -/
theorem Reachable.fresh (reached : client.Reachable) : client.rotation.failures = 0 := by
  induction reached with
  | made created => exact create_fresh created
  | worked work reached ih => exact run_fresh work ih
  | @set client setting reached ih =>
      rcases client.set_cases setting with ⟨checks, taken⟩ | ⟨error, checks, rejected⟩
      · rw [taken]
        exact ih
      · rw [rejected]
        exact ih
  | edited disk reached ih => exact ih

end ClusterClient.Client
