import JobLog.Proofs.Config.Acceptance
import JobLog.Proofs.Pipeline.Fidelity
import JobLog.Proofs.Web.Query
import Mathlib.Data.List.Sort

/-!
# What the service sees of a signed request

A request is signed as it is put together, and sent in the normal form of its address. The service
signs again what it has received: the path, and the parameters in the order of their names. Both
agree if app id and key come through unchanged, and only then are the path and the parameters those
that were signed: `Pusher.Client.request_received`.
-/

namespace JobLog

/-! ## Ordinary texts -/

open Web (Ordinary isOrdinary bytesOf bytesOf_toList)

theorem Digest.ordinary_hex (bytes : List UInt8) : Ordinary (hex bytes).toList := by
  have hdigit : ∀ n ∈ List.range 16, isOrdinary (digit n) = true := by decide
  intro c hc
  rw [hex, String.toList_ofList] at hc
  obtain ⟨b, -, hc⟩ := List.mem_flatMap.1 hc
  simp only [List.mem_cons, List.not_mem_nil, or_false] at hc
  rcases hc with rfl | rfl
  · exact hdigit _ (List.mem_range.2 (Web.toNat_div_lt b))
  · exact hdigit _ (List.mem_range.2 (Web.toNat_mod_lt b))

theorem ordinary_repr (n : Nat) : Ordinary n.repr.toList := by
  intro c hc
  rw [Nat.repr_eq_ofList_toDigits, String.toList_ofList] at hc
  have hdigit : c.isDigit = true := Nat.isDigit_of_mem_toDigits (by decide) (by decide) hc
  simp [isOrdinary, Char.isAlphanum, hdigit]

theorem ordinary_toString (n : Int) : Ordinary (toString n).toList := by
  cases n with
  | ofNat n => exact ordinary_repr n
  | negSucc n =>
      show Ordinary ("-" ++ (n + 1).repr).toList
      rw [String.toList_append]
      intro c hc
      rcases List.mem_append.1 hc with hc | hc
      · obtain rfl : c = '-' := by simpa using hc
        decide
      · exact ordinary_repr (n + 1) c hc

/-! ## Addresses of the web -/

/-- Slashes are dropped behind a character that is none. -/
theorem Text.trimEnd_eq {mark c : Char} (hc : c ≠ mark) (s : String) (before after : List Char)
    (hs : s.toList = before ++ c :: after) :
    ∃ rest, trimEnd mark s = String.ofList (before ++ c :: rest) := by
  refine ⟨(after.reverse.dropWhile (· = mark)).reverse, ?_⟩
  have hreverse : s.toList.reverse = after.reverse ++ c :: before.reverse := by
    rw [hs]
    simp
  have hstop : (c :: before.reverse).dropWhile (· = mark) = c :: before.reverse :=
    List.dropWhile_cons_of_neg (by simpa using hc)
  rw [trimEnd, hreverse, List.dropWhile_append, hstop]
  split
  · rename_i hempty
    rw [List.isEmpty_iff.1 hempty]
    simp
  · simp

/-- A configured endpoint has a scheme of the web, with or without slashes after it. -/
theorem Config.exists_scheme {endpoint : String} (h : isWebAddress endpoint = true) :
    ∃ scheme rest, Web.Url.IsWeb scheme ∧
      Text.trimEnd '/' endpoint = String.ofList (scheme.toList ++ ':' :: rest) := by
  have hcolon : ':' ≠ '/' := by decide
  rw [isWebAddress, Bool.or_eq_true, List.isPrefixOf_iff_prefix, List.isPrefixOf_iff_prefix] at h
  rcases h with ⟨after, hafter⟩ | ⟨after, hafter⟩
  · obtain ⟨rest, heq⟩ := Text.trimEnd_eq hcolon endpoint "http".toList ("//".toList ++ after)
      hafter.symm
    exact ⟨"http", rest, .inl rfl, heq⟩
  · obtain ⟨rest, heq⟩ := Text.trimEnd_eq hcolon endpoint "https".toList ("//".toList ++ after)
      hafter.symm
    exact ⟨"https", rest, .inr rfl, heq⟩

namespace Pusher

/-! ## Receiving a request -/

namespace Request

/-- The path that the service sees. -/
def path (r : Request) : List Char :=
  r.target.toList.takeWhile (· ≠ '?')

/-- The parameters that the service sees, decoded. -/
def parameters (r : Request) : List (List UInt8 × List UInt8) :=
  Web.parameters ((r.target.toList.dropWhile (· ≠ '?')).drop 1)

/-- The values of the parameters with a name. -/
def values (r : Request) (name : String) : List (List UInt8) :=
  (r.parameters.filter fun p => p.1 = Text.encode name).map Prod.snd

/-- What the service signs again: the path, and the parameters but the signature, sorted by their
names. -/
def signedText (r : Request) : List UInt8 :=
  let signed := r.parameters.filter fun p => p.1 ≠ Text.encode "auth_signature"
  let sorted := signed.insertionSort fun p q => p.1 ≤ q.1
  Text.encode "POST\n" ++ bytesOf r.path ++ Text.encode "\n" ++
    (Text.encode "&").intercalate (sorted.map fun p => p.1 ++ Text.encode "=" ++ p.2)

/-- The service accepts a request: the signature is that of what it has received, the key is the one
that it knows, and the digest is that of the body. -/
structure Verifies (r : Request) (key secret : String) : Prop where
  signature : r.values "auth_signature" =
    [Text.encode (Digest.hex (Digest.hmac (Text.encode secret) r.signedText))]
  key : r.values "auth_key" = [Text.encode key]
  digest : r.values "body_md5" =
    [Text.encode (Digest.hex (Digest.Md5.digest (Text.encode r.body)))]

instance (r : Request) (key secret : String) : Decidable (r.Verifies key secret) :=
  decidable_of_iff
    (r.values "auth_signature" =
        [Text.encode (Digest.hex (Digest.hmac (Text.encode secret) r.signedText))] ∧
      r.values "auth_key" = [Text.encode key] ∧
      r.values "body_md5" = [Text.encode (Digest.hex (Digest.Md5.digest (Text.encode r.body)))])
    ⟨fun h => ⟨h.1, h.2.1, h.2.2⟩, fun h => ⟨h.signature, h.key, h.digest⟩⟩

end Request

namespace Client

variable {c : Client} {now : Int} {a : Announcement} {r : Request} {body : String}

/-- The parameters that are signed, in the order in which they are put together. -/
def signed (c : Client) (now : Int) (body : String) : List (String × String) :=
  [("auth_key", c.key), ("auth_timestamp", toString now), ("auth_version", "1.0"),
    ("body_md5", Digest.hex (Digest.Md5.digest (Text.encode body)))]

/-- The parameters of a request. -/
def parameters (c : Client) (now : Int) (body : String) : List (String × String) :=
  c.signed now body ++ [("auth_signature", c.signature c.path (c.query now body))]

/-- An app id and a key that come through an address unchanged. -/
structure Transparent (c : Client) : Prop where
  appId : Web.Url.Straight c.appId.toList
  key : Web.Passes c.key.toList

instance (c : Client) : Decidable c.Transparent :=
  decidable_of_iff (Web.Url.Straight c.appId.toList ∧ Web.Passes c.key.toList)
    ⟨fun h => ⟨h.1, h.2⟩, fun h => ⟨h.appId, h.key⟩⟩

/-- The path and the parameters that the service sees are those that were put together. -/
structure Unchanged (c : Client) (now : Int) (r : Request) : Prop where
  path : r.path = c.path.toList
  parameters : r.parameters =
    (c.parameters now r.body).map fun p => (Text.encode p.1, Text.encode p.2)

/-! ## How an address is put together -/

theorem toList_path (c : Client) :
    c.path.toList =
      '/' :: ("apps".toList ++ '/' :: (c.appId.toList ++ '/' :: "events".toList)) := by
  simp [path]

theorem straight_path_iff {appId : List Char} :
    Web.Url.Straight ("apps".toList ++ '/' :: (appId ++ '/' :: "events".toList)) ↔
      Web.Url.Straight appId := by
  have hevents : Web.Url.Straight "events".toList := by decide
  rw [Web.Url.straight_append_iff, Web.Url.straight_append_iff]
  exact ⟨fun h => h.2.1, fun h => ⟨Web.Url.straight_apps, h, hevents⟩⟩

theorem toList_query (c : Client) (now : Int) (body : String) :
    (c.query now body).toList = Web.written (c.signed now body) := by
  simp [query, signed, Web.written, Web.entry, List.intercalate]

/-- An address is put together of the endpoint, the path and the parameters. -/
theorem toList_address (c : Client) (now : Int) (body : String) :
    (c.address now body).toList =
      c.endpoint.toList ++ c.path.toList ++ '?' :: Web.written (c.parameters now body) := by
  rw [parameters, Web.written_concat (by simp [signed]), ← toList_query]
  simp [address, Web.entry]

theorem exists_last (c : Client) (now : Int) (body : String) :
    ∃ init last, Web.written (c.parameters now body) = init ++ [last] ∧ 0x20 < last.toNat :=
  Web.exists_last_written (by simp [signed]) (by decide) (Digest.ordinary_hex _)

theorem ordinary_name : ∀ p ∈ c.parameters now body, Ordinary p.1.toList := by
  have hnames : ∀ name ∈ ["auth_key", "auth_timestamp", "auth_version", "body_md5",
      "auth_signature"], Ordinary name.toList := by
    decide
  intro p hp
  refine hnames p.1 ?_
  have hmem := List.mem_map_of_mem (f := Prod.fst) hp
  simpa [parameters, signed] using hmem

theorem Transparent.passes (h : c.Transparent) :
    ∀ p ∈ c.parameters now body, Web.Passes p.2.toList := by
  have hversion : Ordinary "1.0".toList := by decide
  intro p hp
  simp only [parameters, signed, List.cons_append, List.nil_append, List.mem_cons,
    List.not_mem_nil, or_false] at hp
  rcases hp with rfl | rfl | rfl | rfl | rfl
  · exact h.key
  · exact (ordinary_toString now).passes
  · exact hversion.passes
  · exact (Digest.ordinary_hex _).passes
  · exact (Digest.ordinary_hex _).passes

/-! ## What is received -/

/-- What is sent to an address. -/
theorem request_eq_ok (h : c.request now a = .ok r) :
    ∃ url, Web.Url.parse (c.address now (Client.body a)) = .ok url ∧
      r.address.path = url.path ∧ r.address.query = url.query ∧ r.body = Client.body a := by
  unfold request at h
  dsimp only at h
  split at h
  · cases h
  · rename_i url hparse
    split at h <;> cases h
    refine ⟨url, hparse, ?_, ?_, rfl⟩ <;> simp only [withoutUser] <;> split <;> rfl

end Client

namespace Request

variable {r : Request}

/-- Path and query are seen apart, since no path holds a question mark. -/
theorem path_eq (hmark : '?' ∉ r.address.path.toList) : r.path = r.address.path.toList := by
  rw [path, target, Web.Url.target, String.toList_append,
    List.takeWhile_append_of_pos (Web.Url.decide_ne_of_not_mem hmark)]
  cases r.address.query with
  | none => simp
  | some query => simp

theorem parameters_eq (hmark : '?' ∉ r.address.path.toList) {query : List Char}
    (hquery : r.address.query = some (String.ofList query)) :
    r.parameters = Web.parameters query := by
  rw [parameters, target, Web.Url.target, String.toList_append,
    List.dropWhile_append_of_pos (Web.Url.decide_ne_of_not_mem hmark), hquery]
  simp

end Request

namespace Client

variable {c : Client} {now : Int} {a : Announcement} {r : Request} {scheme : String}
  {rest : List Char}

/-- What is known of a request that is sent, if its endpoint leads to the root of a server. -/
theorem request_seen (hscheme : Web.Url.IsWeb scheme)
    (hendpoint : c.endpoint = String.ofList (scheme.toList ++ ':' :: rest))
    (hroot : Web.Url.LeadsToRoot c.endpoint) (h : c.request now a = .ok r) :
    (r.path = c.path.toList ↔ Web.Url.Straight c.appId.toList) ∧
      (Web.Url.Straight c.appId.toList →
        r.parameters = Web.parameters (Web.sent (Web.written (c.parameters now r.body)))) := by
  obtain ⟨url, hparse, hpath, hquery, hbody⟩ := request_eq_ok h
  obtain ⟨init, last, hwritten, hlast⟩ := c.exists_last now (Client.body a)
  have haddress : c.address now (Client.body a) = String.ofList (scheme.toList ++ ':' :: (rest ++
      '/' :: (("apps".toList ++ '/' :: (c.appId.toList ++ '/' :: "events".toList)) ++
        '?' :: (init ++ [last])))) := by
    rw [← String.toList_inj, toList_address, hendpoint, toList_path, hwritten]
    simp
  rw [hendpoint] at hroot
  rw [haddress] at hparse
  obtain ⟨hmark, hfound, hsent⟩ :=
    Web.Url.parse_path_query hscheme hroot hlast _ init url hparse
  rw [straight_path_iff] at hfound hsent
  rw [← hpath] at hmark hfound
  rw [← hquery] at hsent
  refine ⟨?_, fun hstraight => ?_⟩
  · rw [Request.path_eq hmark, toList_path]
    exact hfound
  · rw [Request.parameters_eq hmark (hsent hstraight), hbody, hwritten]
    rfl

/-- A request comes through unchanged if and only if its app id and its key do. -/
theorem unchanged_iff (hscheme : Web.Url.IsWeb scheme)
    (hendpoint : c.endpoint = String.ofList (scheme.toList ++ ':' :: rest))
    (hroot : Web.Url.LeadsToRoot c.endpoint) (h : c.request now a = .ok r) :
    c.Unchanged now r ↔ c.Transparent := by
  obtain ⟨hpath, hparameters⟩ := request_seen hscheme hendpoint hroot h
  constructor
  · rintro ⟨hsame, hreceived⟩
    have hstraight := hpath.1 hsame
    refine ⟨hstraight, ?_⟩
    -- The key is the first parameter, so nothing but the key itself can make it another one.
    have hname : Ordinary "auth_key".toList := by decide
    have hwritten := (hparameters hstraight).symm.trans hreceived
    exact Web.passes_of_received hname (congrArg List.head? hwritten)
  · intro htransparent
    refine ⟨hpath.2 htransparent.appId, (hparameters htransparent.appId).trans ?_⟩
    exact Web.parameters_sent (by simp [parameters]) ordinary_name htransparent.passes

/-! ## Signing again -/

/-- A parameter of a request that comes through unchanged is found by its name. -/
theorem Unchanged.values_eq (h : c.Unchanged now r) (name : String) :
    r.values name =
      ((c.parameters now r.body).filter fun p => p.1 = name).map fun p => Text.encode p.2 := by
  rw [Request.values, h.parameters, List.filter_map, List.map_map]
  refine congrArg (List.map _) (List.filter_congr fun p _ => ?_)
  simp only [Function.comp_apply, Web.encode_inj]

/-- The names of the parameters that are signed are in order. -/
theorem sorted_signed (c : Client) (now : Int) (body : String) :
    ((c.signed now body).map fun p => (Text.encode p.1, Text.encode p.2)).Pairwise
      fun p q => p.1 ≤ q.1 := by
  have hnames : (["auth_key", "auth_timestamp", "auth_version", "body_md5"].map
      Text.encode).Pairwise (· ≤ ·) := by
    decide
  rw [← List.pairwise_map (f := Prod.fst), List.map_map]
  exact hnames

/-- What is signed again is what was signed. -/
theorem Unchanged.signedText_eq (h : c.Unchanged now r) :
    r.signedText = Text.encode ("POST\n" ++ c.path ++ "\n" ++ c.query now r.body) := by
  have hsigned : (r.parameters.filter fun p => p.1 ≠ Text.encode "auth_signature") =
      (c.signed now r.body).map fun p => (Text.encode p.1, Text.encode p.2) := by
    rw [h.parameters, List.filter_map]
    refine congrArg (List.map _) ?_
    simp [Function.comp_def, Web.encode_inj, Client.parameters, signed]
  have hquery : Text.encode (c.query now r.body) = (Text.encode "&").intercalate
      ((c.signed now r.body).map fun p => Text.encode p.1 ++ Text.encode "=" ++ Text.encode p.2) := by
    rw [← bytesOf_toList, toList_query, Web.bytesOf_written]
  simp only [Request.signedText, hsigned, (c.sorted_signed now r.body).insertionSort_eq, h.path,
    List.map_map, Function.comp_def, ← hquery, bytesOf_toList, Json.encode_append]

/-- A request that comes through unchanged is accepted. -/
theorem Unchanged.verifies (h : c.Unchanged now r) : r.Verifies c.key c.secret where
  signature := by
    rw [h.values_eq, h.signedText_eq]
    simp [Client.parameters, signed, Client.signature]
  key := by
    rw [h.values_eq]
    simp [Client.parameters, signed]
  digest := by
    rw [h.values_eq]
    simp [Client.parameters, signed]

/-- Whatever is announced at whatever time: if the endpoint of an accepted configuration leads to the
root of a server, the service sees the path and the parameters that were signed if and only if app id
and key come through an address unchanged. Then what it signs again has the signature it has
received, the key is the configured one and the digest is that of the body. -/
theorem request_received {lookup : Config.Lookup} {config : Config} {events : List Event}
    (hread : Config.fromLookup lookup = .ok (config, events))
    (hroot : Web.Url.LeadsToRoot (ofConfig config.pusher).endpoint)
    (hrequest : (ofConfig config.pusher).request now a = .ok r) :
    ((ofConfig config.pusher).Unchanged now r ↔ (ofConfig config.pusher).Transparent) ∧
      ((ofConfig config.pusher).Transparent →
        r.Verifies config.pusher.key config.pusher.secret) := by
  have haccepted := Config.accepted_of_fromLookup hread
  obtain ⟨scheme, rest, hscheme, hendpoint⟩ := Config.exists_scheme haccepted.valid.endpoint
  have hiff := unchanged_iff hscheme hendpoint hroot hrequest
  exact ⟨hiff, fun htransparent => (hiff.2 htransparent).verifies⟩

/-- Settings of a service at a server on this machine. -/
def localSettings (appId key name : String) : Option String :=
  [("AMQP_URL", "amqp://[::1]"), ("DATABASE_URL", "postgres://[::1]/logs"), ("PUSHER_KEY", key),
    ("PUSHER_SECRET", "secret"), ("PUSHER_APP_ID", appId),
    ("PUSHER_ENDPOINT", "http://[::1]")].lookup name

/-- The request that such a service gets for an announcement, with its configuration. -/
def localRequest? (appId key : String) : Option (Config × Request) := do
  let (config, _) ← (Config.fromLookup (localSettings appId key)).toOption
  let request ← ((ofConfig config.pusher).request 0 ⟨"job-1", "job:log", "\x7b\x7d"⟩).toOption
  return (config, request)

theorem localRequest?_eq_some {appId key : String} {config : Config}
    (h : localRequest? appId key = some (config, r)) :
    (∃ events, Config.fromLookup (localSettings appId key) = .ok (config, events)) ∧
      (ofConfig config.pusher).request 0 ⟨"job-1", "job:log", "\x7b\x7d"⟩ = .ok r := by
  obtain ⟨⟨read, events⟩, hread, h⟩ := Option.bind_eq_some_iff.1 h
  obtain ⟨request, hrequest, h⟩ := Option.bind_eq_some_iff.1 h
  cases h
  exact ⟨⟨events, eq_ok_of_toOption hread⟩, eq_ok_of_toOption hrequest⟩

/-- Blanks and letters beyond ASCII may stand in a key. -/
theorem request_received_encoded : ∃ (config : Config) (r : Request),
    localRequest? "app" "clé 1" = some (config, r) ∧
      r.Verifies config.pusher.key config.pusher.secret := by
  have hcomputed : (localRequest? "app" "clé 1").any (fun found =>
      Web.Url.LeadsToRoot (ofConfig found.1.pusher).endpoint ∧
        (ofConfig found.1.pusher).Transparent) = true := by
    decide +kernel
  obtain ⟨⟨config, r⟩, hlocal, hchecked⟩ := (Option.any_eq_true _ _).1 hcomputed
  obtain ⟨⟨events, hread⟩, hrequest⟩ := localRequest?_eq_some hlocal
  obtain ⟨hroot, htransparent⟩ := of_decide_eq_true hchecked
  exact ⟨config, r, hlocal, (request_received hread hroot hrequest).2 htransparent⟩

/-- An app id with a blank is accepted, but the signature is not that of the path that is
received. -/
theorem request_not_verified : ∃ (config : Config) (events : List Event) (r : Request),
    Config.fromLookup (localSettings "a b" "key") = .ok (config, events) ∧
      (ofConfig config.pusher).request 0 ⟨"job-1", "job:log", "\x7b\x7d"⟩ = .ok r ∧
      ¬ r.Verifies config.pusher.key config.pusher.secret := by
  have hcomputed : (localRequest? "a b" "key").any (fun found =>
      ¬ found.2.Verifies found.1.pusher.key found.1.pusher.secret) = true := by
    decide +kernel
  obtain ⟨⟨config, r⟩, hlocal, hchecked⟩ := (Option.any_eq_true _ _).1 hcomputed
  obtain ⟨⟨events, hread⟩, hrequest⟩ := localRequest?_eq_some hlocal
  exact ⟨config, events, r, hread, hrequest, of_decide_eq_true hchecked⟩

end Client

end Pusher

end JobLog
