import Internet2.Proofs.Session.RoundTrip

/-!
What the plain display writes: the locator's URL string, with the `url` feature as without it,
for every readable locator; an in-process name percent-encoded, where
the string has it as it is.
-/

namespace Internet2

namespace NodeLocator

variable {Key : Type}

/--
The plain display of an in-process locator writes its name percent-encoded with the fragment set,
where `to_url_string` writes it as it is: the two branches of `Display for NodeLocator` differ on
a name with a space, a quote, `<`, `>`, a backquote, a control or a non-ASCII character.
-/
theorem fmt_zmqInproc [PublicKeyText Key] [OnionText] (api : ApiType) {name : String}
    (inner : ∀ c ∈ name.data, isTabOrNewline c = false)
    (last : ∀ c ∈ name.data.getLast?, isC0ControlOrSpace c = false) :
    (zmqInproc name api : NodeLocator Key).fmt false =
      some ("lnpz:?api=" ++ api.apiName ++ "#" ++ (Url.percentEncode Url.fragmentSet name.data).asString) := by
  -- The name is the fragment; preprocessing keeps it, and the fragment encoding writes it.
  have noSlashes : "".startsWith "//" = false := by
    cases starts : "".startsWith "//" with
    | false => rfl
    | true => obtain ⟨_, front⟩ := Url.startsWith_slashes starts; cases front
  rw [fmt, if_neg Bool.false_ne_true, toUrl, Url.parse_query_fragment_kept
    (urlScheme_plain (zmqInproc name api : NodeLocator Key)) ?_ (apiQuery_plain api) inner last]
  · simp only [Url.serialize, urlScheme, noSlashes, Option.map_some', Bool.false_eq_true, if_false,
      String.append_assoc]
    rfl
  · simp [toUrlString]

/-- A space in an in-process name is displayed as `%20`, and written as a space by `to_url_string`. -/
theorem fmt_zmqInproc_space :
    (zmqInproc "my socket" .peerConnecting : NodeLocator HexKey).fmt false = some "lnpz:?api=p2p#my%20socket" ∧
      (zmqInproc "my socket" .peerConnecting : NodeLocator HexKey).toUrlString = "lnpz:?api=p2p#my socket" :=
  ⟨(fmt_zmqInproc .peerConnecting (by decide) (by decide)).trans (by rfl), rfl⟩

/-! ## The locators with an address -/

/--
A locator with a network address is written from its components as
`scheme://[node@]address[:port][/?api=role]`: the six variants that carry an address agree with
`components` on what they write.
-/
theorem toUrlString_of_inetAddr [PublicKeyText Key] [OnionText] {l : NodeLocator Key} {inet : InetAddr}
    (placed : l.inetAddr = some inet) :
    l.toUrlString =
      l.urlScheme ++ "://" ++ (l.nodeId.map fun key => PublicKeyText.toString key ++ "@").getD "" ++
        inet.toString ++ portSuffix l.port ++ (l.apiType.map fun api => "/?api=" ++ api.apiName).getD "" := by
  -- The address of a UDP or ZMQ locator is its IP address, written as itself.
  cases l <;> simp only [inetAddr, components, Option.some.injEq, reduceCtorEq] at placed <;> subst placed <;>
    simp [toUrlString, nodeId, port, apiType, components, String.append_assoc]

/-- Setting the port 24 of the source's first test locator appends `:24` to its string. -/
theorem toUrlString_of_inetAddr_port :
    (native HexKey.test (.ipv4 ⟨127, 0, 0, 1⟩) (some 24) : NodeLocator HexKey).toUrlString =
      (native HexKey.test (.ipv4 ⟨127, 0, 0, 1⟩) none : NodeLocator HexKey).toUrlString ++ ":24" :=
  (toUrlString_of_inetAddr (by rfl)).trans (by rfl)

end NodeLocator

end Internet2
