import ClusterClient.Config.Setting
import Mathlib.Algebra.Group.Nat.Defs
import Mathlib.Data.List.Basic
import Mathlib.Data.List.Induction
import Mathlib.Logic.Function.Basic

/-! # Settings as an overlay

Settings lie over a configuration. Each kind of setting has its own parts of the configuration, of
which the last setting of the kind decides alone; the parts of a kind that does not occur, and the
nodes, stay as they are. So nothing depends on the order of the kinds or on earlier settings of a
kind, and settings that are given twice change nothing the second time
(`ClusterClient.Config.setAll_overlaid`).
-/

namespace ClusterClient

namespace Setting

/-- The kinds of settings. -/
inductive Kind where
  | timeout
  | connectTimeout
  | proxies
  | verifyHost
  | verifyPeer
  | authorities
  | certificate
  | key
  deriving DecidableEq, Repr

/-- The kind of a setting. -/
def kind : Setting → Kind
  | .timeout _ => .timeout
  | .connectTimeout _ => .connectTimeout
  | .proxies _ => .proxies
  | .verifyHost _ => .verifyHost
  | .verifyPeer _ => .verifyPeer
  | .authorities _ => .authorities
  | .certificate _ => .certificate
  | .key _ _ => .key

/-- The last setting of each kind that occurs among settings. -/
def lastOf? (settings : List Setting) (kind : Kind) : Option Setting :=
  settings.reverse.find? fun setting => setting.kind = kind

/-- One more setting is the last of its kind, and the other kinds are not affected. -/
theorem lastOf?_concat (settings : List Setting) (setting : Setting) :
    lastOf? (settings ++ [setting]) =
      Function.update (lastOf? settings) setting.kind (some setting) := by
  funext kind
  rw [lastOf?, List.reverse_concat, List.find?_cons]
  by_cases same : kind = setting.kind
  · subst same
    rw [Function.update_self, decide_eq_true rfl]
  · rw [Function.update_of_ne same, decide_eq_false (Ne.symm same)]
    rfl

/-- Settings that are repeated have the same last ones. -/
theorem lastOf?_append_self (settings : List Setting) :
    lastOf? (settings ++ settings) = lastOf? settings := by
  funext kind
  rw [lastOf?, List.reverse_append, List.find?_append, Option.or_self, lastOf?]

end Setting

/-- A span in nanoseconds. -/
def Duration.inNanoseconds (d : Duration) : Nat := d.seconds * 1000000000 + d.nanoseconds

/-- The milliseconds that are kept are those that fit into the span, up to the greatest number of
64 bits. -/
theorem Duration.milliseconds_eq (d : Duration) :
    d.milliseconds = min (d.inNanoseconds / 1000000) (2 ^ 64 - 1) := by
  have whole : d.inNanoseconds / 1000000 = d.seconds * 1000 + d.nanoseconds / 1000000 := by
    unfold inNanoseconds
    omega
  rw [whole]
  rfl

namespace Config

open Setting

/-- The configuration under a layer of settings, of which there is at most one for each kind. -/
def overlay (base : Config) (layer : Kind → Option Setting) : Config where
  hosts := base.hosts
  requestTimeoutMs :=
    match layer .timeout with
    | some (.timeout limit) => limit.milliseconds
    | _ => base.requestTimeoutMs
  connectTimeoutMs :=
    match layer .connectTimeout with
    | some (.connectTimeout limit) => some limit.milliseconds
    | _ => base.connectTimeoutMs
  proxies :=
    match layer .proxies with
    | some (.proxies table) => table
    | _ => base.proxies
  tls :=
    { verifyHost :=
        match layer .verifyHost with
        | some (.verifyHost verify) => verify
        | _ => base.tls.verifyHost
      verifyPeer :=
        match layer .verifyPeer with
        | some (.verifyPeer verify) => verify
        | _ => base.tls.verifyPeer
      authorities :=
        match layer .authorities with
        | some (.authorities path) => some path
        | _ => base.tls.authorities
      certificate :=
        match layer .certificate with
        | some (.certificate path) => some path
        | _ => base.tls.certificate
      key :=
        match layer .key with
        | some (.key path _) => some path
        | _ => base.tls.key
      passphrase :=
        match layer .key with
        | some (.key _ passphrase) => passphrase
        | _ => base.tls.passphrase }

/-- Nothing is laid over a configuration without settings. -/
theorem overlay_none (base : Config) : base.overlay (fun _ => none) = base := rfl

/-- **One setting.** It takes its place in the layer and leaves the rest of it. -/
theorem set_overlay (base : Config) (layer : Kind → Option Setting) (setting : Setting) :
    (base.overlay layer).set setting =
      base.overlay (Function.update layer setting.kind (some setting)) := by
  cases setting <;> rfl

/-- A list of settings is the layer of its last ones. -/
theorem setAll_eq_overlay (base : Config) (settings : List Setting) :
    base.setAll settings = base.overlay (lastOf? settings) := by
  induction settings using List.reverseRecOn with
  | nil => exact base.overlay_none.symm
  | append_singleton settings setting ih =>
      calc base.setAll (settings ++ [setting])
          = (base.setAll settings).set setting := List.foldl_concat _ _ _ _
        _ = (base.overlay (lastOf? settings)).set setting := by rw [ih]
        _ = base.overlay (lastOf? (settings ++ [setting])) := by
            rw [set_overlay, lastOf?_concat]

/-- What settings make of a configuration: the layer of the last ones of each kind, whatever comes
before them and however the kinds are ordered; a second time nothing more; and of a time limit the
whole milliseconds that fit into 64 bits. -/
structure Overlaid (base : Config) (settings : List Setting) : Prop where
  whole : base.setAll settings = base.overlay (lastOf? settings)
  agreed : ∀ others : List Setting, (∀ kind, lastOf? others kind = lastOf? settings kind) →
    base.setAll others = base.setAll settings
  again : (base.setAll settings).setAll settings = base.setAll settings
  limits : ∀ limit : Duration,
    limit.milliseconds = min (limit.inNanoseconds / 1000000) (2 ^ 64 - 1)

/-- **Settings are an overlay.** -/
theorem setAll_overlaid (base : Config) (settings : List Setting) : Overlaid base settings where
  whole := base.setAll_eq_overlay settings
  agreed := by
    intro others same
    rw [setAll_eq_overlay, setAll_eq_overlay, funext same]
  again := by
    have appended : (base.setAll settings).setAll settings = base.setAll (settings ++ settings) :=
      List.foldl_append.symm
    rw [appended, setAll_eq_overlay, setAll_eq_overlay, lastOf?_append_self]
  limits := Duration.milliseconds_eq

/-- A key without a passphrase behind one with a passphrase, and a table of proxies behind another;
the time limit is half a millisecond short of the next whole one. -/
example :
    let base : Config := { hosts := ["http://a/"], proxies := [("all", "http://p/")] }
    base.setAll
        [.key "old.pem" (some "secret"), .proxies [("http", "http://q/")],
          .timeout ⟨1, 999500000⟩, .proxies [("https", "http://r/")], .key "new.pem" none] =
      { hosts := ["http://a/"]
        requestTimeoutMs := 1999
        proxies := [("https", "http://r/")]
        tls := { key := some "new.pem" } } := by
  decide

end Config
end ClusterClient
