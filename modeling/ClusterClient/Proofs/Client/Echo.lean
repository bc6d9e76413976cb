import ClusterClient.Proofs.Client.Attempts

/-! # Work that echoes other work

An exchange echoes another one if it makes the same calls, with suffixes behind their paths, and
counts the same events, with pages under the name of another variant. What a client does depends
neither on the requests that it has executed nor on what it has counted, nor on the path of a call.
So on clients that differ in their records only, the echo gets the same responses, sends the same
requests but for the suffixes, and leaves the clients alike (`ClusterClient.Exchange.Echoes.run`).
-/

namespace ClusterClient

/-- The call with a suffix behind its path. -/
def Call.extended (suffix : String) (call : Call) : Call :=
  { call with path := call.path ++ suffix }

theorem Call.extended_empty (call : Call) : call.extended "" = call := by
  rw [extended, String.append_empty]

/-- The request with a suffix behind its URL. -/
def Request.extended (suffix : String) (request : Request) : Request :=
  { request with url := request.url ++ suffix }

theorem Request.extended_empty (request : Request) : request.extended "" = request := by
  rw [extended, String.append_empty]

/-- The requests that an exchange sends on a client, in order. -/
def Client.requests {α : Type} (work : Exchange α) (client : Client) : List Request :=
  (client.attempts work).map Attempt.request

/-- The requests that are executed during work come behind those before it. -/
theorem Client.run_executed {α : Type} (work : Exchange α) (client : Client) :
    (client.run work).2.transport.executed =
      client.transport.executed ++ client.requests work :=
  congrArg Transport.executed (client.run_attempted work).transport

/-- The event, where a page counts for the variant of the given name. -/
def Event.paged (variant : String) : Event → Event
  | .page _ => .page variant
  | event => event

namespace Attempt

/-- The attempt with a suffix behind the path of its call. -/
def extended (suffix : String) (attempt : Attempt) : Attempt :=
  { attempt with call := attempt.call.extended suffix }

/-- The request of an attempt with a longer path is the request with the longer URL. -/
theorem request_extended (suffix : String) (attempt : Attempt) :
    (attempt.extended suffix).request = attempt.request.extended suffix :=
  congrArg (Request.of attempt.call.method · attempt.call.body) String.append_assoc.symm

/-- What an attempt is counted as does not depend on its path, and it is no page. -/
theorem events_paged (variant suffix : String) (attempt : Attempt) :
    attempt.events.map (Event.paged variant) = (attempt.extended suffix).events := by
  obtain ⟨call, host, outcome⟩ := attempt
  cases outcome with
  | failure => rfl
  | answer response =>
      simp only [events, extended, Call.extended, Client.outcomeEvents]
      split <;> rfl

end Attempt

namespace Client

variable {client other : Client}

/-- The client without its records: the requests that it has executed and what it has counted. -/
def bare (client : Client) : Client :=
  { client with transport := { client.transport with executed := [] }, metrics := {} }

@[simp] theorem bare_record (event : Event) (client : Client) :
    (client.record event).bare = client.bare := rfl

/-- Clients that are alike turn to the same node. -/
theorem rotation_of_alike (alike : client.bare = other.bare) :
    client.rotation = other.rotation := by
  change client.bare.rotation = other.bare.rotation
  rw [alike]

/-- Clients that are alike meet with the same outcome next. -/
theorem outcome_of_alike (alike : client.bare = other.bare) :
    client.transport.outcome = other.transport.outcome := by
  change client.bare.transport.outcome = other.bare.transport.outcome
  rw [alike]

/-- Behind an attempt each, alike clients that turn to the same node are alike. -/
theorem attempt_alike (alike : client.bare = other.bare) (suffix : String) (call : Call)
    (rotation : Rotation) :
    ({ (client.attempt (call.extended suffix)).2 with rotation } : Client).bare =
      ({ (other.attempt call).2 with rotation } : Client).bare := by
  have passed : ∀ (tried : Client) (made : Call),
      ({ (tried.attempt made).2 with rotation } : Client).bare =
        { tried.bare with
          rotation
          transport :=
            { tried.bare.transport with planned := tried.bare.transport.planned.drop 1 } } := by
    intro tried made
    rw [attempt_eq]
    rfl
  rw [passed, passed, alike]

/-- Clients that are alike up to their metrics make the same first attempt. -/
theorem firstAttempt_alike (alike : client.bare = other.bare) (suffix : String) (call : Call) :
    client.firstAttempt (call.extended suffix) = (other.firstAttempt call).extended suffix := by
  simp only [firstAttempt, Attempt.extended, currentHost, rotation_of_alike alike,
    outcome_of_alike alike]

/-- What a round on one client is next to the round on an alike one for the call without a
suffix. -/
structure RoundEchoed (suffix : String) (call : Call) (left : Nat) (client other : Client) :
    Prop where
  reply : (round (call.extended suffix) left client).1.toOption =
    (round call left other).1.toOption
  bare : (round (call.extended suffix) left client).2.bare = (round call left other).2.bare
  attempts : roundAttempts (call.extended suffix) left client =
    (roundAttempts call left other).map (Attempt.extended suffix)

/-- **A round on alike clients.** The suffix changes nothing but the requests. -/
theorem round_echoed (suffix : String) (call : Call) (left : Nat)
    (alike : client.bare = other.bare) : RoundEchoed suffix call left client other := by
  induction left generalizing client other with
  | zero => exact ⟨rfl, alike, rfl⟩
  | succ left ih =>
      have rotation := rotation_of_alike alike
      have outcome := congrFun (outcome_of_alike alike) 0
      have first := firstAttempt_alike alike suffix call
      have behind := attempt_alike alike suffix call
      cases accepted : (other.transport.outcome 0).accepted? with
      | some response =>
          have same : (client.transport.outcome 0).accepted? = some response := by
            rw [outcome, accepted]
          constructor
          · rw [round_answer same, round_answer accepted]
          · rw [round_answer same, round_answer accepted, rotation]
            exact behind other.rotation.settle
          · simp only [roundAttempts, same, accepted, first, List.map_cons, List.map_nil]
      | none =>
          have same : (client.transport.outcome 0).accepted? = none := by
            rw [outcome, accepted]
          rcases moved : other.rotation.advance with ⟨retry | exhausted, next⟩
          · have turned : client.rotation.advance = (.retry, next) := by
              rw [rotation, moved]
            have rest := ih (behind next)
            constructor
            · rw [round_retry same turned, round_retry accepted moved]
              exact rest.reply
            · rw [round_retry same turned, round_retry accepted moved]
              exact rest.bare
            · simp only [roundAttempts, same, accepted, turned, moved, first, rest.attempts,
                List.map_cons]
          · have turned : client.rotation.advance = (.exhausted, next) := by
              rw [rotation, moved]
            constructor
            · rw [round_exhausted same turned, round_exhausted accepted moved]
              rfl
            · rw [round_exhausted same turned, round_exhausted accepted moved, bare_record,
                bare_record]
              exact behind next
            · simp only [roundAttempts, same, accepted, turned, moved, first, List.map_cons,
                List.map_nil]

/-- A dispatch is the round through the nodes that are left, of which alike clients have the same
number. -/
theorem dispatch_echoed (suffix : String) (call : Call) (alike : client.bare = other.bare) :
    (client.dispatch (call.extended suffix)).1.toOption = (other.dispatch call).1.toOption ∧
      (client.dispatch (call.extended suffix)).2.bare = (other.dispatch call).2.bare ∧
      roundAttempts (call.extended suffix) client.rotation.remaining client =
        (roundAttempts call other.rotation.remaining other).map (Attempt.extended suffix) := by
  have echoed := round_echoed suffix call other.rotation.remaining alike
  rw [dispatch, dispatch, rotation_of_alike alike]
  exact ⟨echoed.reply, echoed.bare, echoed.attempts⟩

end Client

/-- The end of a dispatch is counted by whether it was answered, and it is no page. -/
theorem Dispatch.events_paged (variant : String) (call : Call) (dispatch : Dispatch) {reply : Reply}
    (same : reply.toOption = dispatch.reply.toOption) :
    Dispatch.events ⟨call, reply⟩ = dispatch.events.map (Event.paged variant) := by
  obtain ⟨made, heard⟩ := dispatch
  cases reply with
  | ok response =>
      cases heard with
      | ok _ => rfl
      | error _ => cases same
  | error error =>
      cases heard with
      | ok _ => cases same
      | error _ => rfl

namespace Exchange

variable {α β γ δ : Type} {suffixes : List String} {variant : String} {image : β → α}
  {result : δ → γ}

/-- Work that makes the calls of other work, with one of the suffixes behind each path, counts its
events, with pages under the given name, and ends with the image of its value. Of a failure it may
notice no more than that it is one. -/
inductive Echoes (suffixes : List String) (variant : String) (image : β → α) :
    Exchange α → Exchange β → Prop where
  | done (value : β) : Echoes suffixes variant image (.done (image value)) (.done value)
  | send {suffix : String} (call : Call) {next : Reply → Exchange α} {other : Reply → Exchange β}
      (member : suffix ∈ suffixes)
      (rest : ∀ reply heard, reply.toOption = heard.toOption →
        Echoes suffixes variant image (next reply) (other heard)) :
      Echoes suffixes variant image (.send (call.extended suffix) next) (.send call other)
  | note {event : Event} {next : Exchange α} {other : Exchange β}
      (rest : Echoes suffixes variant image next other) :
      Echoes suffixes variant image (.note (event.paged variant) next) (.note event other)

/-- Without a suffix, the two make the same call. -/
theorem Echoes.send_same (call : Call) {next : Reply → Exchange α} {other : Reply → Exchange β}
    (member : "" ∈ suffixes)
    (rest : ∀ reply heard, reply.toOption = heard.toOption →
      Echoes suffixes variant image (next reply) (other heard)) :
    Echoes suffixes variant image (.send call next) (.send call other) := by
  have sent := Echoes.send call member rest
  rwa [Call.extended_empty] at sent

/-- Work in two parts echoes other work if each part does. -/
theorem Echoes.bind {work : Exchange α} {other : Exchange β} {next : α → Exchange γ}
    {rest : β → Exchange δ} (first : work.Echoes suffixes variant image other)
    (second : ∀ value, (next (image value)).Echoes suffixes variant result (rest value)) :
    (work >>= next).Echoes suffixes variant result (other >>= rest) := by
  induction first with
  | done value => exact second value
  | send call member _ ih => exact .send call member ih
  | note _ ih => exact .note ih

/-- More suffixes allow for more echoes. -/
theorem Echoes.mono {more : List String} (within : suffixes ⊆ more) {work : Exchange α}
    {other : Exchange β} (echoes : work.Echoes suffixes variant image other) :
    work.Echoes more variant image other := by
  induction echoes with
  | done value => exact .done value
  | send call member _ ih => exact .send call (within member) ih
  | note _ ih => exact .note ih

/-- What work comes to on one client, next to what other work comes to on another one. -/
structure Echoed (suffixes : List String) (variant : String) (image : β → α) (work : Exchange α)
    (other : Exchange β) (client heard : Client) : Prop where
  value : (client.run work).1 = image (heard.run other).1
  bare : (client.run work).2.bare = (heard.run other).2.bare
  attempts : List.Forall₂ (fun echo made => ∃ suffix ∈ suffixes, echo = made.extended suffix)
    (client.attempts work) (heard.attempts other)
  events : client.events work = (heard.events other).map (Event.paged variant)

/-- **An echo on alike clients.** It comes to the same, and the clients stay alike. -/
theorem Echoes.run {work : Exchange α} {other : Exchange β}
    (echoes : work.Echoes suffixes variant image other) {client heard : Client}
    (alike : client.bare = heard.bare) :
    Echoed suffixes variant image work other client heard := by
  induction echoes generalizing client heard with
  | done value => exact ⟨rfl, alike, .nil, rfl⟩
  | @send suffix call next other member _ ih =>
      obtain ⟨reply, behind, attempts⟩ := Client.dispatch_echoed suffix call alike
      obtain ⟨value, bare, later, events⟩ := ih _ _ reply behind
      refine ⟨value, bare, ?_, ?_⟩
      · have extended : List.Forall₂
            (fun echo made => ∃ suffix ∈ suffixes, echo = Attempt.extended suffix made)
            (Client.roundAttempts (call.extended suffix) client.rotation.remaining client)
            (Client.roundAttempts call heard.rotation.remaining heard) := by
          rw [attempts, List.forall₂_map_left_iff, List.forall₂_same]
          exact fun _ _ => ⟨suffix, member, rfl⟩
        exact List.rel_append extended later
      · have ended := Dispatch.events_paged variant (call.extended suffix)
          ⟨call, (heard.dispatch call).1⟩ reply
        rw [Client.events, Client.events, attempts, events, ended, List.map_append,
          List.map_append, List.map_flatMap, List.flatMap_map]
        simp only [Attempt.events_paged variant suffix]
  | @note event next other _ ih =>
      have recorded : (client.record (event.paged variant)).bare = (heard.record event).bare :=
        alike
      obtain ⟨value, bare, attempts, events⟩ := ih recorded
      exact ⟨value, bare, attempts, congrArg (List.cons _) events⟩

section Records

variable {work : Exchange α} {other : Exchange β} {client heard : Client}

/-- With one suffix only, all requests of an echo have it. -/
theorem Echoed.requests {suffix : String}
    (echoed : Echoed [suffix] variant image work other client heard) :
    client.requests work = (heard.requests other).map (Request.extended suffix) := by
  have attempts := echoed.attempts
  simp only [List.mem_singleton, exists_eq_left] at attempts
  rw [← List.forall₂_map_right_iff, List.forall₂_eq_eq_eq] at attempts
  rw [Client.requests, Client.requests, attempts, List.map_map, List.map_map]
  exact List.map_congr_left fun attempt _ => attempt.request_extended suffix

/-- The metrics of the echo count what the other work does, with the pages under its own name. -/
theorem Echoed.metrics (echoed : Echoed suffixes variant image work other client heard) :
    (client.run work).2.metrics =
      ((heard.events other).map (Event.paged variant)).foldl Registry.record client.metrics := by
  rw [client.run_counted, echoed.events]

end Records

end Exchange
end ClusterClient
