import ClusterClient.Number.Power
import ClusterClient.Text.Basic

/-!
# Numeric addresses

Which texts are IPv4 and IPv6 addresses in the host of a URL. An IPv4 address has one to four
numbers, each decimal, octal behind `0` or hexadecimal behind `0x`, the last of which fills the
bytes that are left. An IPv6 address has eight pieces of up to four hexadecimal digits, one run of
which may be left out as `::`, and the last two of which may be written as an IPv4 address of four
decimal numbers.
-/

namespace ClusterClient.Url

/-- The parts of a text between dots, the first of which starts with `seen`, held last first. -/
def dotted (seen : List Char) : List Char → List (List Char)
  | [] => [seen.reverse]
  | c :: cs => if c = '.' then seen.reverse :: dotted [] cs else dotted (c :: seen) cs

namespace Ipv4

/-- The value of one number of an address; nothing behind `0x` is zero. -/
def number? : List Char → Option Nat
  | [] => none
  | '0' :: 'x' :: cs => digits? 16 cs
  | '0' :: 'X' :: cs => digits? 16 cs
  | ['0'] => some 0
  | '0' :: cs => digits? 8 cs
  | cs => digits? 10 cs

/-- The parts of a host between dots, without an empty one at the end. -/
def parts (host : List Char) : List (List Char) :=
  let all := dotted [] host
  if all.getLast? = some [] then all.dropLast else all

/-- Whether a host must be an IPv4 address: its last part is made of digits or is a number. -/
def isClaimedBy (host : List Char) : Bool :=
  match (parts host).getLast? with
  | none => false
  | some last => (!last.isEmpty && last.all Char.isDigit) || (number? last).isSome

/-- Whether a host is an IPv4 address. -/
def isAddress (host : List Char) : Bool :=
  let parts := parts host
  match parts.mapM number? with
  | none => false
  | some numbers =>
    match numbers.reverse with
    | [] => false
    | last :: others =>
      decide (numbers.length ≤ 4) && others.all (decide <| · ≤ 255)
        && decide (last < twoTo (8 * (5 - numbers.length)))

end Ipv4

namespace Ipv6

/-- Whether a text is a decimal number up to 255 without a needless leading zero. -/
def isByte (cs : List Char) : Bool :=
  !cs.isEmpty && (cs.length == 1 || cs.head? != some '0')
    && match digits? 10 cs with
      | none => false
      | some value => decide (value ≤ 255)

/-- Whether a text is four decimal numbers between dots. -/
def isDottedQuad (cs : List Char) : Bool :=
  let parts := dotted [] cs
  parts.length == 4 && parts.all isByte

/-- Whether the rest of an address completes it, behind `count` pieces, among which a run that is
left out counts as one; `fuel` bounds the length of the rest. -/
def completes : Nat → Nat → Bool → List Char → Bool
  | _, count, short, [] => short || count == 8
  | 0, _, _, _ => false
  | fuel + 1, count, short, c :: cs =>
    if count = 8 then false
    else if c = ':' then !short && completes fuel (count + 1) true cs
    else
      let digits := ((c :: cs).take 4).takeWhile fun c => (digit? 16 c).isSome
      match (c :: cs).drop digits.length with
      | [] => short || count + 1 == 8
      | '.' :: _ =>
        !digits.isEmpty && decide (count ≤ 6) && isDottedQuad (c :: cs)
          && (short || count + 2 == 8)
      | ':' :: rest => !rest.isEmpty && completes fuel (count + 1) short rest
      | _ => false

/-- Whether a text is an IPv6 address. -/
def isAddress (cs : List Char) : Bool :=
  match cs with
  | [] => false
  | [_] => false
  | ':' :: ':' :: rest => completes rest.length 1 true rest
  | ':' :: _ => false
  | cs => completes cs.length 0 false cs

end Ipv6
end ClusterClient.Url
