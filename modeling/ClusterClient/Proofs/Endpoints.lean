import ClusterClient.Config.Basic
import Mathlib.Data.List.DropRight

/-! # Nodes that paths are appended to

A node is checked as a URL and then closed with a slash. A slash behind the characters of a URL
makes no difference to it, unless they name nothing but an empty user
(`ClusterClient.Url.isBase_concat`). Blanks at the end of a text are ignored, though, and behind
them the slash keeps them. So a closed node is accepted again exactly if the node is accepted with
its last blanks, and it has a query or a fragment exactly if the node has one
(`ClusterClient.Config.nodes_closed`).
-/

namespace ClusterClient

namespace Url

/-- Whether the characters make up a URL that others can be resolved against. -/
def isBase (cs : List Char) : Bool :=
  match ofChars cs with
  | .ok url => url.canBeBase
  | .error _ => false

/-- Whether the characters are a general scheme and the mark of an empty user, without a host. -/
def isBare (cs : List Char) : Bool :=
  (scheme? cs).any fun found =>
    decide (Kind.ofScheme found.1 = .general ∧ found.2 = ['/', '/', '@'])

/-- Whether the characters are a general scheme and nothing behind it. -/
def isScheme (cs : List Char) : Bool :=
  (scheme? cs).any fun found => decide (Kind.ofScheme found.1 = .general ∧ found.2 = [])

/-- A slash at the end does not change the scheme, and stays at the end of the rest. -/
theorem schemeRest?_concat (cs : List Char) :
    schemeRest? (cs ++ ['/']) =
      (schemeRest? cs).map fun (scheme, rest) => (scheme, rest ++ ['/']) := by
  induction cs with
  | nil => rfl
  | cons c cs ih =>
      simp only [List.cons_append, schemeRest?, ih]
      split
      · rfl
      · split
        · cases schemeRest? cs <;> rfl
        · rfl

/-- A slash at the end does not change the scheme that a text starts with. -/
theorem scheme?_concat (cs : List Char) :
    scheme? (cs ++ ['/']) = (scheme? cs).map fun (scheme, rest) => (scheme, rest ++ ['/']) := by
  cases cs with
  | nil => rfl
  | cons c cs =>
      simp only [List.cons_append, scheme?]
      split
      · exact schemeRest?_concat (c :: cs)
      · rfl

/-- If nothing is left behind the scheme, the text ends with its colon. -/
theorem schemeRest?_nil {cs scheme : List Char} (all : schemeRest? cs = some (scheme, [])) :
    cs.getLast? = some ':' := by
  induction cs generalizing scheme with
  | nil => cases all
  | cons c cs ih =>
      simp only [schemeRest?] at all
      split at all
      case isTrue colon =>
        cases all
        rw [colon]
        rfl
      case isFalse =>
        split at all
        · obtain ⟨⟨rest, behind⟩, found, same⟩ := Option.map_eq_some_iff.mp all
          cases same
          rw [List.getLast?_cons, ih found]
          rfl
        · cases all

/-- A text that is nothing but a scheme ends with a colon. -/
theorem scheme?_nil {cs scheme : List Char} (all : scheme? cs = some (scheme, [])) :
    cs.getLast? = some ':' := by
  unfold scheme? at all
  split at all
  · split at all
    · exact schemeRest?_nil all
    · cases all
  · cases all

/-- A span that ends at a slash does not reach one that is added. -/
theorem takeWhile_concat {p : Char → Bool} (stop : p '/' = false) (cs : List Char) :
    (cs ++ ['/']).takeWhile p = cs.takeWhile p := by
  rw [List.takeWhile_append, List.takeWhile_cons_of_neg (by rw [stop]; exact Bool.false_ne_true)]
  split
  · rename_i all
    rw [List.append_nil]
    exact ((List.takeWhile_prefix p).eq_of_length all).symm
  · rfl

/-- The authority ends at a slash, so that it stays what it was. -/
theorem takeWhile_authority (kind : Kind) (cs : List Char) :
    (cs ++ ['/']).takeWhile (!endsAuthority kind ·) = cs.takeWhile (!endsAuthority kind ·) :=
  takeWhile_concat (p := (!endsAuthority kind ·)) rfl cs

/-- What stands behind the last at sign is shorter than the whole. -/
theorem length_takeWhile_reverse {authority : List Char} (mark : '@' ∈ authority) :
    (authority.reverse.takeWhile (· != '@')).reverse.length < authority.length := by
  rw [List.length_reverse, ← @List.length_reverse _ authority]
  refine lt_of_le_of_ne (List.takeWhile_prefix _).length_le fun all => ?_
  have whole := (List.takeWhile_prefix (· != '@')).eq_of_length all
  have passed := List.mem_takeWhile_imp (whole ▸ List.mem_reverse.mpr mark)
  exact absurd rfl (bne_iff_ne.mp passed)

/-- Only for an empty user with nothing behind it does a slash make a difference. -/
theorem userInfo_concat (kind : Kind) {cs : List Char} (named : cs ≠ ['@']) :
    userInfo kind (cs ++ ['/']) =
      (userInfo kind cs).map fun (hasUser, rest) => (hasUser, rest ++ ['/']) := by
  simp only [userInfo, takeWhile_authority]
  split
  case isFalse => rfl
  case isTrue mark =>
    have front := List.takeWhile_prefix (p := (!endsAuthority kind ·)) (l := cs)
    have member := List.contains_iff_mem.mp mark
    generalize cs.takeWhile (!endsAuthority kind ·) = authority at front member ⊢
    have inside := length_takeWhile_reverse member
    have short := front.length_le
    generalize (authority.reverse.takeWhile (· != '@')).reverse = host at inside ⊢
    have taken : (authority.take (authority.length - host.length - 1)).length =
        authority.length - host.length - 1 := by
      rw [List.length_take]
      omega
    generalize authority.take (authority.length - host.length - 1) = info at taken ⊢
    have room : info.length + 1 ≤ cs.length := by omega
    rw [List.drop_append_of_le_length room]
    have left : info = [] → host = [] → cs.drop (info.length + 1) ≠ [] := by
      rintro rfl rfl none
      have full := List.drop_eq_nil_iff.mp none
      simp only [List.length_nil] at taken full
      have same : authority = cs := front.eq_of_length (by omega)
      obtain ⟨only, rfl⟩ := List.length_eq_one_iff.mp (show authority.length = 1 by omega)
      rw [List.mem_singleton] at member
      exact named (by rw [← same, member])
    cases info with
    | cons c info => rfl
    | nil =>
        cases host with
        | cons c host => rfl
        | nil =>
            obtain ⟨c, rest, behind⟩ := List.exists_cons_of_ne_nil (left rfl rfl)
            rw [behind]
            rfl

/-- The host stays what it was, and the slash goes to what is behind it. -/
theorem spanHost_concat (kind : Kind) (bracketed : Bool) (cs : List Char) :
    spanHost kind bracketed (cs ++ ['/']) =
      ((spanHost kind bracketed cs).1, (spanHost kind bracketed cs).2 ++ ['/']) := by
  induction cs generalizing bracketed with
  | nil => cases bracketed <;> rfl
  | cons c cs ih =>
      simp only [List.cons_append, spanHost]
      split
      · rfl
      · rw [ih]

/-- The port ends at the slash, as it would at the end. -/
theorem checkPort_concat (value : Nat) (cs : List Char) :
    checkPort value (cs ++ ['/']) = checkPort value cs := by
  induction cs generalizing value with
  | nil => rfl
  | cons c cs ih => simp only [List.cons_append, checkPort, ih]

/-- The check of an authority gives the same result, unless the authority is an empty user alone. -/
theorem checkAuthority_concat (kind : Kind) {cs : List Char} (named : cs ≠ ['@']) :
    checkAuthority kind (cs ++ ['/']) = checkAuthority kind cs := by
  unfold checkAuthority
  rw [userInfo_concat kind named]
  cases userInfo kind cs with
  | error fault => rfl
  | ok found =>
      obtain ⟨hasUser, rest⟩ := found
      simp only [Except.map, bind, Except.bind, spanHost_concat]
      obtain ⟨host, behind⟩ := spanHost kind false rest
      cases behind with
      | nil => rfl
      | cons c behind =>
          simp only [List.cons_append, List.head?_cons, List.drop_succ_cons, List.drop_zero,
            checkPort_concat]

/-- The check of a file URL gives the same result. -/
theorem checkFile_concat (cs : List Char) : checkFile (cs ++ ['/']) = checkFile cs := by
  match cs with
  | [] => rfl
  | [c] =>
      simp only [List.cons_append, List.nil_append, checkFile]
      split <;> rfl
  | first :: second :: rest => simp only [List.cons_append, checkFile, takeWhile_authority]

/-- The characters behind the slashes of a network URL. -/
theorem dropWhile_concat (cs : List Char) :
    (cs ++ ['/']).dropWhile (fun c => c == '/' || c == '\\') = [] ∧
        cs.dropWhile (fun c => c == '/' || c == '\\') = [] ∨
      (cs ++ ['/']).dropWhile (fun c => c == '/' || c == '\\') =
        cs.dropWhile (fun c => c == '/' || c == '\\') ++ ['/'] := by
  rw [List.dropWhile_append]
  split
  · rename_i none
    exact .inl ⟨rfl, List.isEmpty_iff.mp none⟩
  · exact .inr rfl

/-- Slashes in front of the authority are skipped, and one that is added at the end changes nothing
in the check behind them. -/
theorem checkNetwork_concat (cs : List Char) :
    checkAuthority .network ((cs ++ ['/']).dropWhile fun c => c == '/' || c == '\\') =
      checkAuthority .network (cs.dropWhile fun c => c == '/' || c == '\\') := by
  rcases dropWhile_concat cs with ⟨closed, plain⟩ | closed
  · rw [closed, plain]
  · rw [closed]
    by_cases named : cs.dropWhile (fun c => c == '/' || c == '\\') = ['@']
    · rw [named]
      rfl
    · exact checkAuthority_concat .network named

/-- **A slash behind a URL.** It makes no difference unless the URL is bare, and it makes a URL of a
general scheme alone. -/
theorem isBase_concat (cs : List Char) :
    isBase (cs ++ ['/']) = (isBase cs && !isBare cs || isScheme cs) := by
  unfold isBase ofChars isBare isScheme
  rw [scheme?_concat]
  cases scheme? cs with
  | none => rfl
  | some found =>
      obtain ⟨scheme, rest⟩ := found
      simp only [Option.map_some, Option.any_some]
      cases kind : Kind.ofScheme scheme with
      | network =>
          simp only [checkNetwork_concat, reduceCtorEq, false_and, decide_false, Bool.not_false,
            Bool.and_true, Bool.or_false]
      | file =>
          simp only [checkFile_concat, reduceCtorEq, false_and, decide_false, Bool.not_false,
            Bool.and_true, Bool.or_false]
      | general =>
          simp only [true_and]
          rcases rest with _ | ⟨first, rest⟩
          · rfl
          by_cases slash : first = '/'
          · subst slash
            rcases rest with _ | ⟨second, authority⟩
            · rfl
            by_cases slash : second = '/'
            · subst slash
              by_cases named : authority = ['@']
              · rw [named]
                rfl
              · simp only [List.cons_append, checkAuthority_concat .general named]
                simp [named]
            · simp [slash]
          · simp [slash]

/-- A general scheme alone is no base and ends with its colon. -/
theorem isScheme_alone {cs : List Char} (alone : isScheme cs = true) :
    isBase cs = false ∧ cs.getLast? = some ':' := by
  unfold isScheme at alone
  cases found : scheme? cs with
  | none =>
      rw [found] at alone
      cases alone
  | some both =>
      obtain ⟨scheme, rest⟩ := both
      rw [found] at alone
      obtain ⟨kind, rfl⟩ := of_decide_eq_true alone
      refine ⟨?_, scheme?_nil found⟩
      unfold isBase ofChars
      rw [found]
      simp only [kind]

/-- A character that is ignored at the ends of a text: a blank or a control character. -/
def isEdge (c : Char) : Bool := decide (c.toNat ≤ 0x20)

/-- A character that is not ignored inside a text. -/
def isKept (c : Char) : Bool := c != '\t' && c != '\n' && c != '\r'

/-- The characters of a text with the blanks at its end, which are ignored otherwise. -/
def unended (text : String) : List Char := (text.toList.dropWhile isEdge).filter isKept

/-- What is dropped inside a URL is dropped at its ends as well. -/
theorem isKept_of_not_isEdge {c : Char} (inner : ¬ isEdge c = true) : isKept c = true := by
  unfold isKept
  simp only [Bool.and_eq_true, bne_iff_ne]
  refine ⟨⟨?_, ?_⟩, ?_⟩ <;> rintro rfl <;> exact inner rfl

/-- It makes no difference whether the ends of a text are cut off before or after the characters
that are dropped inside. -/
theorem filter_rdropWhile (cs : List Char) :
    (cs.rdropWhile isEdge).filter isKept = (cs.filter isKept).rdropWhile isEdge := by
  induction cs using List.reverseRecOn with
  | nil => rfl
  | append_singleton cs c ih =>
      rw [List.filter_append]
      by_cases edge : isEdge c = true
      · rw [List.rdropWhile_concat_pos _ _ _ edge, ih]
        cases kept : isKept c with
        | true => rw [List.filter_cons_of_pos kept, List.filter_nil,
            List.rdropWhile_concat_pos _ _ _ edge]
        | false => rw [List.filter_cons_of_neg (Bool.eq_false_iff.mp kept), List.filter_nil,
            List.append_nil]
      · rw [List.rdropWhile_concat_neg _ _ _ edge, List.filter_append,
          List.filter_cons_of_pos (isKept_of_not_isEdge edge), List.filter_nil,
          List.rdropWhile_concat_neg _ _ _ edge]

/-- What is significant of a text is what is left of it without the edges at its end. -/
theorem significant_eq (text : String) :
    significant text = (unended text).rdropWhile isEdge :=
  filter_rdropWhile _

/-- Without a blank at the end nothing else is ignored. -/
theorem significant_of_last {text : String}
    (last : ∀ c ∈ (unended text).getLast?, ¬ isEdge c = true) :
    significant text = unended text := by
  rw [significant_eq, List.rdropWhile_eq_self_iff]
  exact fun some => last _ (List.getLast?_eq_some_getLast some)

/-- A slash behind a text keeps the blanks at its end. -/
theorem significant_append (text : String) :
    significant (text ++ "/") = unended text ++ ['/'] := by
  have front : ((text ++ "/").toList).dropWhile isEdge = text.toList.dropWhile isEdge ++ ['/'] := by
    rw [String.toList_append, List.dropWhile_append]
    split
    · rename_i none
      rw [List.isEmpty_iff.mp none]
      rfl
    · rfl
  rw [significant_eq, unended, front, List.filter_append]
  exact List.rdropWhile_concat_neg _ _ _ Bool.false_ne_true

end Url

namespace Config

open Url

/-- A host that is accepted again behind a slash: it has one already, or it is accepted with the
blanks at its end and is not bare. -/
def Reusable (host : String) : Prop :=
  host.toList.getLast? = some '/' ∨
    isBase (unended host) = true ∧ isBare (unended host) = false

/-- A host without blanks at its end that is not bare. -/
def IsPlain (host : String) : Prop :=
  (∀ c ∈ (unended host).getLast?, ¬ isEdge c = true) ∧ isBare (unended host) = false

/-- A host is a node if its significant part can be a base, and the node is the host closed by a
slash. -/
theorem node_eq_ok (host endpoint : String) :
    node host = .ok endpoint ↔ isBase (significant host) = true ∧ endpoint = closed host := by
  unfold node isBase parse
  cases ofChars (significant host) with
  | error fault => exact ⟨nofun, nofun⟩
  | ok url =>
      cases base : url.canBeBase with
      | false => simp [base]
      | true => simp [base, eq_comm]

/-- Hosts are nodes if each of them is one. -/
theorem mapM_node_eq_ok (hosts endpoints : List String) :
    hosts.mapM node = .ok endpoints ↔
      (∀ host ∈ hosts, isBase (significant host) = true) ∧ endpoints = hosts.map closed := by
  induction hosts generalizing endpoints with
  | nil =>
      exact ⟨fun same => ⟨fun _ none => absurd none List.not_mem_nil, (Except.ok.inj same).symm⟩,
        fun accepted => congrArg Except.ok accepted.2.symm⟩
  | cons host hosts ih =>
      rw [List.mapM_cons, List.forall_mem_cons, List.map_cons]
      cases found : node host with
      | error error =>
          refine ⟨nofun, fun accepted => ?_⟩
          rw [(node_eq_ok host _).mpr ⟨accepted.1.1, rfl⟩] at found
          cases found
      | ok endpoint =>
          obtain ⟨base, rfl⟩ := (node_eq_ok host endpoint).mp found
          cases others : hosts.mapM node with
          | error error =>
              refine ⟨nofun, fun accepted => ?_⟩
              rw [(ih _).mpr ⟨accepted.1.2, rfl⟩] at others
              cases others
          | ok rest =>
              obtain ⟨bases, rfl⟩ := (ih rest).mp others
              refine ⟨fun same => ⟨⟨base, bases⟩, ?_⟩, fun accepted => ?_⟩
              · exact (Except.ok.inj same).symm
              · rw [accepted.2]
                rfl

/-- A configuration has nodes if it has hosts and each of them can be a base. -/
theorem nodes_eq_ok (config : Config) (endpoints : List String) :
    config.nodes = .ok endpoints ↔ config.hosts ≠ [] ∧
      (∀ host ∈ config.hosts, isBase (significant host) = true) ∧
        endpoints = config.hosts.map closed := by
  unfold nodes
  rw [← mapM_node_eq_ok]
  cases config.hosts with
  | nil => exact ⟨nofun, nofun⟩
  | cons host hosts => exact (and_iff_right (List.cons_ne_nil host hosts)).symm

/-- A closed host ends with a slash. -/
theorem getLast?_closed (host : String) : (closed host).toList.getLast? = some '/' := by
  unfold closed
  split
  · assumption
  · rw [String.toList_append]
    exact List.getLast?_concat

/-- Closing a host twice is closing it once. -/
theorem closed_closed (host : String) : closed (closed host) = closed host :=
  if_pos (getLast?_closed host)

/-- Closing a host adds no mark but a slash. -/
theorem mem_closed {mark : Char} (other : mark ≠ '/') (host : String) :
    mark ∈ (closed host).toList ↔ mark ∈ host.toList := by
  unfold closed
  split
  · rfl
  · rw [String.toList_append, List.mem_append]
    exact or_iff_left (fun slash => other (List.mem_singleton.mp slash))

/-- **An accepted host is accepted again** behind a slash exactly if it is reusable. -/
theorem isBase_closed {host : String} (accepted : isBase (significant host) = true) :
    isBase (significant (closed host)) = true ↔ Reusable host := by
  unfold closed
  split
  case isTrue slash => exact iff_of_true accepted (.inl slash)
  case isFalse missing =>
    -- A scheme alone ends with its colon, so no blank was ignored and the host is no base.
    have named : isScheme (unended host) = false := by
      rw [Bool.eq_false_iff]
      intro alone
      obtain ⟨rejected, colon⟩ := isScheme_alone alone
      have last : ∀ c ∈ (unended host).getLast?, ¬ isEdge c = true := by
        intro c member
        rw [colon] at member
        cases member
        exact Bool.false_ne_true
      rw [significant_of_last last, rejected] at accepted
      cases accepted
    rw [significant_append, isBase_concat, named, Bool.or_false, Bool.and_eq_true,
      Bool.not_eq_true']
    exact (or_iff_right missing).symm

/-- A plain host can be used again behind its slash, if it could be used at all. -/
theorem reusable_of_isPlain {host : String} (accepted : isBase (significant host) = true)
    (plain : IsPlain host) : Reusable host := by
  rw [significant_of_last plain.1] at accepted
  exact .inr ⟨accepted, plain.2⟩

/-- What the nodes of an accepted configuration are: the hosts in order, each with a slash at its
end, and with a query or a fragment exactly where the host has one. A node is accepted again as it
is exactly where the host is reusable, as plain ones are. -/
structure Endpoints (config : Config) (endpoints : List String) : Prop where
  order : endpoints = config.hosts.map closed
  length : endpoints.length = config.hosts.length
  slash : ∀ endpoint ∈ endpoints, endpoint.toList.getLast? = some '/'
  marks : ∀ host ∈ config.hosts, ∀ mark ∈ ['?', '#'],
    (mark ∈ (closed host).toList ↔ mark ∈ host.toList)
  again : ∀ host ∈ config.hosts, (node (closed host) = .ok (closed host) ↔ Reusable host)
  fixed : { config with hosts := endpoints }.nodes = .ok endpoints ↔
    ∀ host ∈ config.hosts, Reusable host
  plain : ∀ host ∈ config.hosts, IsPlain host → Reusable host

/-- **The nodes of an accepted configuration.** -/
theorem nodes_closed {config : Config} {endpoints : List String}
    (accepted : config.nodes = .ok endpoints) : Endpoints config endpoints := by
  obtain ⟨some, bases, rfl⟩ := (nodes_eq_ok config endpoints).mp accepted
  refine
    { order := rfl
      length := List.length_map _
      slash := ?_
      marks := ?_
      again := ?_
      fixed := ?_
      plain := fun host member => reusable_of_isPlain (bases host member) }
  · intro endpoint member
    obtain ⟨host, _, rfl⟩ := List.mem_map.mp member
    exact getLast?_closed host
  · intro host _ mark either
    refine mem_closed ?_ host
    rintro rfl
    exact absurd either (by decide)
  · intro host member
    rw [node_eq_ok, closed_closed]
    exact (and_iff_left rfl).trans (isBase_closed (bases host member))
  · have stays : config.hosts.map closed = (config.hosts.map closed).map closed := by
      rw [List.map_map]
      exact List.map_congr_left fun host _ => (closed_closed host).symm
    rw [nodes_eq_ok, List.forall_mem_map]
    refine (and_iff_right (mt List.map_eq_nil_iff.mp some)).trans ((and_iff_left stays).trans ?_)
    exact forall₂_congr fun host member => isBase_closed (bases host member)

/-- A host with an address and one of a general scheme with a query. -/
theorem nodes_closed_query :
    Endpoints { hosts := ["http://[::1]", "es://a?x"] } ["http://[::1]/", "es://a?x/"] :=
  nodes_closed rfl

/-- A query swallows the slash, and a blank that is ignored at the end of a host is part of it in
front of a slash. -/
theorem nodes_drift :
    ({ hosts := ["http://[::1]?x"] } : Config).nodes = .ok ["http://[::1]?x/"] ∧
      ({ hosts := ["http://[::1] "] } : Config).nodes = .ok ["http://[::1] /"] ∧
        ({ hosts := ["http://[::1] /"] } : Config).nodes =
          .error (.invalidHost "http://[::1] /" .ipv6) :=
  ⟨rfl, rfl, rfl⟩

end Config
end ClusterClient
