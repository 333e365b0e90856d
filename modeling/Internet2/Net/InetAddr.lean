import Internet2.Net.IpAddr

/-!
Network addresses of nodes: IPv4, IPv6 or a Tor onion service, and their text. IP addresses are
written and read as the standard library does; the text of an onion address belongs to the Tor
address type, outside the sources, and is a parameter of the model.
-/

namespace Internet2

/-- Letters of the lower-case base32 alphabet onion addresses are written in. -/
def isBase32 (c : Char) : Bool := (97 ≤ c.toNat && c.toNat ≤ 122) || (50 ≤ c.toNat && c.toNat ≤ 55)

/-- Bare onion text: sixteen (v2) or fifty-six (v3) base32 letters, without `.onion`. -/
def IsOnionText (text : List Char) : Prop :=
  (text.length = 16 ∨ text.length = 56) ∧ ∀ c ∈ text, isBase32 c = true

instance (text : List Char) : Decidable (IsOnionText text) :=
  inferInstanceAs (Decidable (_ ∧ _))

/-- A Tor onion service address, identified by its bare base32 text. -/
structure OnionAddr where
  text : String
  valid : IsOnionText text.toList
  deriving DecidableEq

/--
A network address of a node, as `InetAddr`.

Modelled from the spec: the `inet` module of the addr crate is not among the sources.
The spec describes the value as "IPv4, IPv6, or Tor onion (v2/v3) host".
-/
inductive InetAddr where
  /-- An IPv4 address. -/
  | ipv4 (addr : Ipv4Addr)
  /-- An IPv6 address. -/
  | ipv6 (addr : Ipv6Addr)
  /-- A Tor onion service. -/
  | tor (addr : OnionAddr)
  deriving DecidableEq

/-- The network address of an IP address, as `InetAddr::from`. -/
def InetAddr.ofIpAddr : IpAddr → InetAddr
  | .v4 addr => .ipv4 addr
  | .v6 addr => .ipv6 addr

/--
How onion addresses are read from a host text and written to it: `FromStr` and `Display` of
the Tor address type of the addr crate, outside the sources.
-/
class OnionText where
  /-- The onion address a text names, or the reader's error message. -/
  fromStr : String → Except String OnionAddr
  /-- The text an onion address is written as. -/
  toString : OnionAddr → String

/--
What the locator's round trip relies on of the onion text: it reads back what it writes, and
it writes a non-empty text of ASCII letters, digits and dots that is no IP address.
-/
class LawfulOnionText [OnionText] : Prop where
  fromStr_toString : ∀ addr, OnionText.fromStr (OnionText.toString addr) = .ok addr
  toString_ne_nil : ∀ addr, (OnionText.toString addr).toList ≠ []
  toString_chars : ∀ addr, ∀ c ∈ (OnionText.toString addr).toList, isAsciiAlphanumeric c = true ∨ c = '.'
  toString_not_ip : ∀ addr, IpAddr.fromStr (OnionText.toString addr) = none

/--
The onion text of the spec's grammar, a "bare onion address without suffix": an address is
written as its base32 text and read from it, and any other text is refused with itself as the
message, as the spec's `InvalidHost(token)`.
-/
instance bareOnionText : OnionText where
  fromStr text := if h : IsOnionText text.toList then .ok ⟨text, h⟩ else .error text
  toString addr := addr.text

/--
The text of a network address, as `Display for InetAddr` writes it: an IP address as the
standard library writes it, an onion address by the onion text.
-/
def InetAddr.toString [OnionText] : InetAddr → String
  | .ipv4 addr => addr.toString
  | .ipv6 addr => addr.toString
  | .tor addr => OnionText.toString addr

/-- The IPv6 address between the brackets of `[...]`. -/
def bracketedIpv6 : List Char → Option Ipv6Addr
  | '[' :: rest =>
    match readIpv6 rest with
    | some (addr, [']']) => some addr
    | _ => none
  | _ => none

/--
The network address a host text names, as `InetAddr::from_str` reads it, or the onion
reader's error message.

Modelled from the spec, which lists the forms accepted: "dotted IPv4,
bracketed/unbracketed IPv6, bare onion address without suffix"; the last is the onion text's.
-/
def InetAddr.fromStr [OnionText] (text : String) : Except String InetAddr :=
  match IpAddr.fromStr text with
  | some addr => .ok (InetAddr.ofIpAddr addr)
  | none =>
    match bracketedIpv6 text.toList with
    | some addr => .ok (.ipv6 addr)
    | none => (OnionText.fromStr text).map .tor

end Internet2
