import ClusterClient.Proofs.Client.Round

/-! # Settings that change while a client is in use

A setting is taken as a whole or not at all. Along every use of a client, in which settings are
changed between requests and some of them are rejected, the configuration is the first one with the
settings that were taken, in order; the transport uses it; and the requests go where they would have
gone without any setting (`ClusterClient.Client.settings_atomic`).
-/

namespace ClusterClient

namespace Transport

/-- New settings are taken, or an error is given and the old ones stay. -/
theorem configure_cases (t : Transport) (config : Config) :
    (∃ checks, t.configure config = (.ok (), { t with active := config, checks })) ∨
      ∃ error checks, t.configure config = (.error error, { t with checks }) := by
  unfold configure
  split
  · exact .inl ⟨t.checks, rfl⟩
  · split
    · exact .inl ⟨t.checks + 1, rfl⟩
    · exact .inr ⟨_, t.checks + 1, rfl⟩

/-- With files to check against, the settings that are taken are those that pass the checks. -/
theorem configure_checked {t : Transport} {disk : Disk} (files : t.files = some disk)
    (config : Config) : (t.configure config).1 = config.check disk := by
  cases verdict : config.check disk with
  | ok _ => simp only [configure, files, verdict]
  | error error => simp only [configure, files, verdict]

end Transport

namespace Client

/-- One thing that is done with a client. -/
inductive Use where
  | set (setting : Setting)
  | request (call : Call)
  /-- The files that settings are checked against become others. -/
  | edit (disk : Disk)

/-- Whether a request is sent. -/
def Use.isRequest : Use → Bool
  | .request _ => true
  | _ => false

/-- The client behind a use. -/
def use (client : Client) : Use → Client
  | .set setting => (client.set setting).2
  | .request call => (client.dispatch call).2
  | .edit disk => { client with transport := { client.transport with files := some disk } }

/-- The client behind uses that follow each other. -/
def useAll (client : Client) (uses : List Use) : Client := uses.foldl use client

/-- The settings among the uses that are taken, in order. -/
def taken (client : Client) : List Use → List Setting
  | [] => []
  | .set setting :: uses =>
    match (client.set setting).1 with
    | .ok () => setting :: taken (client.set setting).2 uses
    | .error _ => taken (client.set setting).2 uses
  | use :: uses => taken (client.use use) uses

/-- The replies to the requests among the uses, in order. -/
def replies (client : Client) : List Use → List Reply
  | [] => []
  | .request call :: uses => (client.dispatch call).1 :: replies (client.dispatch call).2 uses
  | use :: uses => replies (client.use use) uses

/-- **One setting.** It is taken by the client and the transport, or by neither of them. -/
theorem set_cases (client : Client) (setting : Setting) :
    (∃ checks, client.set setting =
        (.ok (),
          { client with
            config := client.config.set setting
            transport :=
              { client.transport with active := client.config.set setting, checks } })) ∨
      ∃ error checks, client.set setting =
        (.error error, { client with transport := { client.transport with checks } }) := by
  rcases client.transport.configure_cases (client.config.set setting) with
    ⟨checks, taken⟩ | ⟨error, checks, rejected⟩
  · exact .inl ⟨checks, by simp only [set, taken]⟩
  · exact .inr ⟨error, checks, by simp only [set, rejected]⟩

/-- Whether a setting is taken is what the check of the configuration with it says. -/
theorem set_checked {client : Client} {disk : Disk} (files : client.transport.files = some disk)
    (setting : Setting) :
    (client.set setting).1 = (client.config.set setting).check disk := by
  rw [← Transport.configure_checked files]
  rcases client.transport.configure_cases (client.config.set setting) with
    ⟨checks, taken⟩ | ⟨error, checks, rejected⟩
  · simp only [set, taken]
  · simp only [set, rejected]

/-- The client without settings: its nodes, the outcomes to come and what it has done. -/
def unconfigured (client : Client) : Client :=
  { client with
    config := { hosts := [] }
    transport :=
      { client.transport with files := none, active := { hosts := [] }, checks := 0 } }

/-- An attempt does not look at the settings. -/
theorem attempt_unconfigured (client : Client) (call : Call) :
    client.unconfigured.attempt call =
      ((client.attempt call).1, (client.attempt call).2.unconfigured) := by
  rw [attempt_eq, attempt_eq]
  rfl

/-- A round does not depend on the settings and does not change them. -/
theorem round_unconfigured (call : Call) (left : Nat) (client : Client) :
    round call left client.unconfigured =
      ((round call left client).1, (round call left client).2.unconfigured) := by
  induction left generalizing client with
  | zero => rfl
  | succ left ih =>
      cases accepted : (client.transport.outcome 0).accepted? with
      | some response =>
          have same : (client.unconfigured.transport.outcome 0).accepted? = some response :=
            accepted
          rw [round_answer accepted, round_answer same, attempt_unconfigured]
          rfl
      | none =>
          have same : (client.unconfigured.transport.outcome 0).accepted? = none := accepted
          rcases moved : client.rotation.advance with ⟨retry | exhausted, rotation⟩
          · have turned : client.unconfigured.rotation.advance = (.retry, rotation) := moved
            rw [round_retry accepted moved, round_retry same turned, attempt_unconfigured]
            exact ih { (client.attempt call).2 with rotation }
          · have turned : client.unconfigured.rotation.advance = (.exhausted, rotation) := moved
            rw [round_exhausted accepted moved, round_exhausted same turned, attempt_unconfigured]
            rfl

/-- A dispatch does not look at the settings, so that reconfiguring a client makes no difference to
its replies. -/
theorem dispatch_unconfigured (client : Client) (call : Call) :
    client.unconfigured.dispatch call =
      ((client.dispatch call).1, (client.dispatch call).2.unconfigured) :=
  round_unconfigured call _ client

/-- A round leaves the settings as they are. -/
theorem round_settings (call : Call) (left : Nat) (client : Client) :
    (round call left client).2.config = client.config ∧
      (round call left client).2.transport.active = client.transport.active ∧
      (round call left client).2.transport.files = client.transport.files := by
  induction left generalizing client with
  | zero => exact ⟨rfl, rfl, rfl⟩
  | succ left ih =>
      cases accepted : (client.transport.outcome 0).accepted? with
      | some response =>
          rw [round_answer accepted, attempt_eq]
          exact ⟨rfl, rfl, rfl⟩
      | none =>
          rcases moved : client.rotation.advance with ⟨retry | exhausted, rotation⟩
          · rw [round_retry accepted moved, attempt_eq]
            exact ih _
          · rw [round_exhausted accepted moved, attempt_eq]
            exact ⟨rfl, rfl, rfl⟩

theorem useAll_cons (client : Client) (use : Use) (uses : List Use) :
    client.useAll (use :: uses) = (client.use use).useAll uses := rfl

/-- The settings that are taken are those of the first use, and those of the others behind it. -/
theorem taken_cons (client : Client) (step : Use) (uses : List Use) :
    client.taken (step :: uses) = client.taken [step] ++ (client.use step).taken uses := by
  cases step with
  | set setting =>
      rcases client.set_cases setting with ⟨checks, taken⟩ | ⟨error, checks, rejected⟩
      · simp only [Client.taken, use, taken, List.singleton_append]
      · simp only [Client.taken, use, rejected, List.nil_append]
  | request call => rfl
  | edit disk => rfl

/-- What uses do to the settings and the nodes: the settings that are taken are added, the transport
uses the configuration if it did so at first or has taken a setting since, settings go on being
checked, and the nodes stay. -/
structure Used (client : Client) (uses : List Use) : Prop where
  config : (client.useAll uses).config = client.config.setAll (client.taken uses)
  active : client.transport.active = client.config ∨ client.taken uses ≠ [] →
    (client.useAll uses).transport.active = (client.useAll uses).config
  files : client.transport.files.isSome → (client.useAll uses).transport.files.isSome
  hosts : (client.useAll uses).hosts = client.hosts

/-- **One use.** Only a setting that is taken changes the configuration, and then the transport uses
it. -/
theorem used_one (client : Client) (step : Use) : Used client [step] := by
  cases step with
  | set setting =>
      have behind : client.useAll [.set setting] = (client.set setting).2 := rfl
      rcases client.set_cases setting with ⟨checks, taken⟩ | ⟨error, checks, rejected⟩
      · have added : client.taken [.set setting] = [setting] := by
          simp only [Client.taken, taken]
        rw [taken] at behind
        refine { config := ?_, active := fun _ => ?_, files := fun checked => ?_, hosts := ?_ }
        · rw [behind, added]
          rfl
        · rw [behind]
        · rw [behind]
          exact checked
        · rw [behind]
          rfl
      · have none : client.taken [.set setting] = [] := by
          simp only [Client.taken, rejected]
        rw [rejected] at behind
        refine { config := ?_, active := fun agreed => ?_, files := fun checked => ?_, hosts := ?_ }
        · rw [behind, none]
          rfl
        · rw [behind]
          exact agreed.resolve_right fun some => some none
        · rw [behind]
          exact checked
        · rw [behind]
          rfl
  | request call =>
      obtain ⟨last, run⟩ := dispatch_run call client
      obtain ⟨config, active, files⟩ := round_settings call client.rotation.remaining client
      exact
        { config := config
          active := fun agreed =>
            active.trans ((agreed.resolve_right fun some => some rfl).trans config.symm)
          files := fun checked => (congrArg Option.isSome files).trans checked
          hosts := run.endpoints }
  | edit disk =>
      exact
        { config := rfl
          active := fun agreed => agreed.resolve_right fun some => some rfl
          files := fun _ => rfl
          hosts := rfl }

/-- Uses one after the other do what each of them does. -/
theorem useAll_used (uses : List Use) (client : Client) : Used client uses := by
  induction uses generalizing client with
  | nil =>
      exact
        { config := rfl
          active := fun agreed => agreed.resolve_right fun some => some rfl
          files := id
          hosts := rfl }
  | cons step uses ih =>
      have first := client.used_one step
      have rest := ih (client.use step)
      refine { config := ?_, active := ?_, files := ?_, hosts := ?_ }
      · rw [taken_cons, Config.setAll, List.foldl_append]
        exact rest.config.trans (congrArg (Config.setAll · _) first.config)
      · intro agreed
        rw [taken_cons] at agreed
        refine rest.active ?_
        by_cases later : (client.use step).taken uses = []
        · rw [later, List.append_nil] at agreed
          exact .inl (first.active agreed)
        · exact .inr later
      · exact fun checked => rest.files (first.files checked)
      · exact rest.hosts.trans first.hosts

/-- Only a request shows behind a client without settings. -/
theorem use_unconfigured (client : Client) {step : Use} (quiet : step.isRequest = false) :
    (client.use step).unconfigured = client.unconfigured := by
  cases step with
  | set setting =>
      rcases client.set_cases setting with ⟨checks, taken⟩ | ⟨error, checks, rejected⟩
      · simp only [use, taken, unconfigured]
      · simp only [use, rejected, unconfigured]
  | request call => cases quiet
  | edit disk => rfl

/-- What a client does apart from its settings comes from the requests alone. -/
theorem useAll_unconfigured (uses : List Use) (client : Client) :
    (client.useAll uses).unconfigured = client.unconfigured.useAll (uses.filter Use.isRequest) ∧
      client.replies uses = client.unconfigured.replies (uses.filter Use.isRequest) := by
  induction uses generalizing client with
  | nil => exact ⟨rfl, rfl⟩
  | cons step uses ih =>
      obtain ⟨behind, replies⟩ := ih (client.use step)
      rw [useAll_cons, behind]
      cases step with
      | request call =>
          have sent := client.dispatch_unconfigured call
          rw [List.filter_cons_of_pos rfl, useAll_cons, Client.replies, Client.replies]
          simp only [use] at replies ⊢
          rw [sent, replies]
          exact ⟨rfl, rfl⟩
      | set setting =>
          have same : (client.use (.set setting)).unconfigured = client.unconfigured :=
            client.use_unconfigured rfl
          rw [List.filter_cons_of_neg Bool.false_ne_true, ← same]
          exact ⟨rfl, replies⟩
      | edit disk => exact ⟨rfl, replies⟩

/-- The transport of a new client uses its configuration. -/
theorem connect_active {disk : Disk} {config : Config} {draws : Draws} {transport : Transport}
    {client : Client} (connected : connect disk config draws transport = .ok client) :
    client.transport.active = client.config := by
  unfold connect create at connected
  split at connected
  · cases connected
  · split at connected
    · cases connected
    · cases verdict : config.check disk with
      | error error =>
          rw [verdict] at connected
          cases connected
      | ok _ =>
          rw [verdict] at connected
          cases connected
          rfl

/-- What holds of a client behind uses of it: what its configuration is, whether the transport uses
it, which further settings are taken and what they change, and that the requests went where they go
without settings. -/
structure Reconfigured (client : Client) (uses : List Use) : Prop where
  config : (client.useAll uses).config = client.config.setAll (client.taken uses)
  active : client.transport.active = client.config ∨ client.taken uses ≠ [] →
    (client.useAll uses).transport.active = (client.useAll uses).config
  connected : ∀ disk config draws transport, connect disk config draws transport = .ok client →
    (client.useAll uses).transport.active = (client.useAll uses).config
  checked : client.transport.files.isSome →
    ∃ disk, (client.useAll uses).transport.files = some disk ∧
      ∀ setting, ((client.useAll uses).set setting).1 =
        ((client.useAll uses).config.set setting).check disk
  accepted : ∀ setting after, (client.useAll uses).set setting = (.ok (), after) →
    after.config = (client.useAll uses).config.set setting ∧
      after.transport.active = after.config ∧ after.hosts = (client.useAll uses).hosts ∧
        after.rotation = (client.useAll uses).rotation
  rejected : ∀ setting error after, (client.useAll uses).set setting = (.error error, after) →
    after.config = (client.useAll uses).config ∧
      after.transport.active = (client.useAll uses).transport.active ∧
        after.hosts = (client.useAll uses).hosts ∧
          after.rotation = (client.useAll uses).rotation
  hosts : (client.useAll uses).hosts = client.hosts
  rotation : (client.useAll uses).rotation =
    (client.useAll (uses.filter Use.isRequest)).rotation
  executed : (client.useAll uses).transport.executed =
    (client.useAll (uses.filter Use.isRequest)).transport.executed
  replied : client.replies uses = client.replies (uses.filter Use.isRequest)

/-- **A setting is taken as a whole or not at all.** Behind any settings and requests the
configuration is the first one with the settings that were taken, the transport uses it, and the
rotation and the requests are those of the requests alone. -/
theorem settings_atomic (client : Client) (uses : List Use) : Reconfigured client uses := by
  have used := useAll_used uses client
  obtain ⟨behind, replies⟩ := useAll_unconfigured uses client
  obtain ⟨alone, aloneReplies⟩ := useAll_unconfigured (uses.filter Use.isRequest) client
  have twice : (uses.filter Use.isRequest).filter Use.isRequest = uses.filter Use.isRequest := by
    simp only [List.filter_filter, Bool.and_self]
  rw [twice] at alone aloneReplies
  have same := behind.trans alone.symm
  have rotations := congrArg Client.rotation same
  have requests := congrArg (fun client : Client => client.transport.executed) same
  refine
    { config := used.config
      active := used.active
      connected := fun _ _ _ _ made => used.active (.inl (connect_active made))
      checked := ?_
      accepted := ?_
      rejected := ?_
      hosts := used.hosts
      rotation := rotations
      executed := requests
      replied := replies.trans aloneReplies.symm }
  · intro checked
    obtain ⟨disk, files⟩ := Option.isSome_iff_exists.mp (used.files checked)
    exact ⟨disk, files, set_checked files⟩
  · intro setting after changed
    rcases (client.useAll uses).set_cases setting with
      ⟨checks, taken⟩ | ⟨error, checks, rejected⟩
    · cases changed.symm.trans taken
      exact ⟨rfl, rfl, rfl, rfl⟩
    · cases changed.symm.trans rejected
  · intro setting error after refused
    rcases (client.useAll uses).set_cases setting with
      ⟨checks, taken⟩ | ⟨error, checks, rejected⟩
    · cases refused.symm.trans taken
    · cases refused.symm.trans rejected
      exact ⟨rfl, rfl, rfl, rfl⟩

/-- A certificate without a key is rejected, the settings around it are taken. -/
example :
    let client : Client :=
      { config := { hosts := ["http://a/"] }
        rotation :=
          { endpoints := ["http://a/"]
            current := 0
            failures := 0
            draws := .planned []
            current_lt := by decide
            failures_lt := by decide }
        transport := { planned := [], files := some {} } }
    client.taken
        [.set (.timeout ⟨1, 0⟩), .request ⟨.get, "_search", ""⟩, .set (.certificate "client.pem"),
          .set (.verifyPeer false)] =
      [.timeout ⟨1, 0⟩, .verifyPeer false] := by
  decide

end Client
end ClusterClient
