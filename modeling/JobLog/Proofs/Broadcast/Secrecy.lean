import JobLog.Broadcast.Pusher
import JobLog.Proofs.Web.Ending
import Mathlib.Data.List.Forall2

/-!
# The secret shows in the signature only

Two clients that differ in their secrets do the same, except that they sign differently. `Resigned`
relates two texts that are equal but for the value of the signature. Whatever is announced, both
clients make the same request up to that, or fail with the same message up to that
(`request_resigned`): a signature stands at the end of an address, it is as long with any secret,
and nothing in it is dropped, encoded or a mark.
-/

namespace JobLog

/-! ## Digests -/

namespace Digest

theorem length_littleEndian (count n : Nat) : (littleEndian count n).length = count := by
  induction count generalizing n with
  | zero => rfl
  | succ count ih => rw [littleEndian, List.length_cons, ih]

theorem length_hmac (key message : List UInt8) : (hmac key message).length = 32 := by
  simp [hmac, Hmac.digest, Sha256.digest, bigEndian, length_littleEndian]

theorem inert_digit {n : Nat} (h : n < 16) : digit n ∈ Web.Url.inert := by
  have hall : ∀ n < 16, digit n ∈ Web.Url.inert := by decide
  exact hall n h

theorem inert_hex (bytes : List UInt8) : Web.Url.Inert (hex bytes).toList := by
  intro c hc
  rw [hex, String.toList_ofList] at hc
  obtain ⟨b, -, hc⟩ := List.mem_flatMap.1 hc
  simp only [List.mem_cons, List.not_mem_nil, or_false] at hc
  rcases hc with rfl | rfl
  · exact inert_digit (Web.toNat_div_lt b)
  · exact inert_digit (Web.toNat_mod_lt b)

theorem length_hex (bytes : List UInt8) : (hex bytes).toList.length = 2 * bytes.length := by
  rw [hex, String.toList_ofList]
  induction bytes with
  | nil => rfl
  | cons b bytes ih =>
      rw [List.flatMap_cons, List.length_append, ih, List.length_cons]
      show 2 + 2 * bytes.length = 2 * (bytes.length + 1)
      omega

end Digest

/-- A text of inert characters takes one byte for each. -/
theorem Web.Url.Inert.utf8ByteSize {s : List Char} (h : Inert s) :
    (String.ofList s).utf8ByteSize = s.length := by
  have hsize : ∀ c ∈ inert, c.utf8Size = 1 := all_decide_iff.1 (by decide)
  induction s with
  | nil => rfl
  | cons c s ih =>
      rw [String.ofList_cons, String.utf8ByteSize_append, String.utf8ByteSize_singleton,
        hsize c (h c List.mem_cons_self), ih fun d hd => h d (List.mem_cons_of_mem _ hd),
        List.length_cons, Nat.add_comm]

/-- Both fail or both succeed, with related causes or values. -/
inductive Alike {ε α : Type} (errors : ε → ε → Prop) (values : α → α → Prop) :
    Except ε α → Except ε α → Prop where
  | error (e f : ε) (h : errors e f) : Alike errors values (.error e) (.error f)
  | ok (a b : α) (h : values a b) : Alike errors values (.ok a) (.ok b)

theorem Alike.imp {ε α : Type} {errors weaker : ε → ε → Prop} {values : α → α → Prop}
    {x y : Except ε α} (h : Alike errors values x y) (himp : ∀ {e f}, errors e f → weaker e f) :
    Alike weaker values x y := by
  cases h with
  | error e f h => exact .error e f (himp h)
  | ok a b h => exact .ok a b h

namespace Pusher

/-! ## Two secrets -/

namespace Client

/-- The client with another secret. -/
def keyed (c : Client) (secret : String) : Client :=
  { c with secret := secret }

/-- The signature of a request with this body. -/
def signatureOf (c : Client) (now : Int) (body : String) : String :=
  c.signature c.path (c.query now body)

variable (c : Client) (secret : String)

/-- Equal texts, but where one has the signature of a request, the other has the signature of the
same request with the other secret. -/
inductive Resigned : String → String → Prop where
  | same (s : String) : Resigned s s
  | signed (now : Int) (body before after : String) :
      Resigned (before ++ "auth_signature=" ++ c.signatureOf now body ++ after)
        (before ++ "auth_signature=" ++ (c.keyed secret).signatureOf now body ++ after)

/-- Requests to the same server that differ in the value of the signature only. -/
structure ResignedRequest (r s : Request) : Prop where
  scheme : r.address.scheme = s.address.scheme
  user : r.address.user = s.address.user ∧ r.address.password = s.address.password
  host : r.address.host = s.address.host ∧ r.address.port = s.address.port
  target : c.Resigned secret r.target s.target
  address : c.Resigned secret r.address.text s.address.text
  contentType : r.contentType = s.contentType
  body : r.body = s.body

/-- The same reason why a request was not sent or not answered; the address in it may differ in the
value of the signature. -/
inductive ResignedCause : RequestError → RequestError → Prop where
  | unreadable : ResignedCause (.unusableAddress none) (.unusableAddress none)
  | unusable (s t : String) (h : c.Resigned secret s t) :
      ResignedCause (.unusableAddress (some s)) (.unusableAddress (some t))
  | unanswered (s t reason : String) (h : c.Resigned secret s t) :
      ResignedCause (.unanswered s reason) (.unanswered t reason)

/-- The same reason why viewers were not told. -/
inductive ResignedError : BroadcastError → BroadcastError → Prop where
  | same (e : BroadcastError) : ResignedError e e
  | request (e f : RequestError) (h : c.ResignedCause secret e f) :
      ResignedError (.request e) (.request f)

variable {c secret}

/-- More text around both. -/
theorem Resigned.within {s t : String} (h : c.Resigned secret s t) (before after : String) :
    c.Resigned secret (before ++ s ++ after) (before ++ t ++ after) := by
  cases h with
  | same => exact .same _
  | signed now body first last =>
      have hsigned : c.Resigned secret _ _ := .signed now body (before ++ first) (last ++ after)
      simpa only [String.append_assoc] using hsigned

theorem ResignedCause.message {e f : RequestError} (h : c.ResignedCause secret e f) :
    c.Resigned secret e.message f.message := by
  cases h with
  | unreadable => exact .same _
  | unusable s t h => exact h.within "builder error for url (" ")"
  | unanswered s t reason h => exact h.within "error sending request for url (" ")"

/-- The messages differ in the value of the signature only. -/
theorem ResignedError.message {e f : BroadcastError} (h : c.ResignedError secret e f) :
    c.Resigned secret e.message f.message := by
  cases h with
  | same => exact .same _
  | request e f h =>
      have hmessage := h.message.within "error publishing to pusher: " ""
      rw [String.append_empty, String.append_empty] at hmessage
      exact hmessage

/-- So do the texts of everything that an error was caused by. -/
theorem ResignedError.chain {e f : BroadcastError} (h : c.ResignedError secret e f) :
    List.Forall₂ (c.Resigned secret) e.chain f.chain := by
  have hmessage := h.message
  cases h with
  | same => exact List.forall₂_same.2 fun text _ => .same text
  | request e f h => exact .cons hmessage (.cons h.message .nil)

/-! ## Requests -/

theorem inert_signature (c : Client) (now : Int) (body : String) :
    Web.Url.Inert ("auth_signature=" ++ c.signatureOf now body).toList := by
  have hname : ∀ d ∈ "auth_signature=".toList, d ∈ Web.Url.inert :=
    Web.all_decide_iff.1 (by decide)
  intro d hd
  rw [String.toList_append] at hd
  rcases List.mem_append.1 hd with hd | hd
  · exact hname d hd
  · exact Digest.inert_hex _ d hd

theorem length_signature (c : Client) (now : Int) (body : String) :
    ("auth_signature=" ++ c.signatureOf now body).toList.length = 79 := by
  rw [String.toList_append, List.length_append, signatureOf, signature, Digest.length_hex,
    Digest.length_hmac]
  rfl

/-- The signature stands at the end of an address. -/
theorem address_eq (c : Client) (now : Int) (body : String) :
    c.address now body = String.ofList ((c.endpoint ++ c.path).toList ++
      '?' :: ((c.query now body ++ "&").toList ++
        ("auth_signature=" ++ c.signatureOf now body).toList)) := by
  rw [← String.toList_inj]
  simp [address, signatureOf]

end Client

theorem withoutUser_ended (url : Web.Url) (place : Web.Url.Place) (front ending : List Char) :
    withoutUser (url.ended place front ending) = (withoutUser url).ended place front ending := by
  simp only [withoutUser, apply_ite (Web.Url.ended · place front ending)]
  cases place <;> rfl

/-- Whether a request can be sent depends on the length of an address and not on its end. -/
theorem isUsable_ended (url : Web.Url) (place : Web.Url.Place) (front : List Char)
    {ending other : List Char}
    (h : (String.ofList ending).utf8ByteSize = (String.ofList other).utf8ByteSize) :
    isUsable (url.ended place front ending) = isUsable (url.ended place front other) := by
  obtain ⟨before, htext⟩ := Web.Url.text_ended url place front
  have hparts (ending : List Char) : (url.ended place front ending).scheme = url.scheme ∧
      (url.ended place front ending).host = url.host := by
    cases place <;> exact ⟨rfl, rfl⟩
  simp only [isUsable, htext, String.utf8ByteSize_append, h, hparts]

namespace Client

variable (c : Client) (secret : String)

/-- Addresses that differ in an end which is the signature make the same request. -/
theorem resignedRequest_ended (url : Web.Url) (place : Web.Url.Place) (front : List Char)
    {ending other : List Char} (contentType body : String)
    (h : ∀ before, c.Resigned secret (before ++ String.ofList ending)
      (before ++ String.ofList other)) :
    c.ResignedRequest secret ⟨url.ended place front ending, contentType, body⟩
      ⟨url.ended place front other, contentType, body⟩ where
  scheme := by cases place <;> rfl
  user := by cases place <;> exact ⟨rfl, rfl⟩
  host := by cases place <;> exact ⟨rfl, rfl⟩
  target := by
    show c.Resigned secret (Web.Url.target _) (Web.Url.target _)
    rcases Web.Url.target_ended url place front with ⟨before, htarget⟩ | htarget
    · rw [htarget, htarget]
      exact h before
    · rw [htarget, htarget]
      exact .same _
  address := by
    obtain ⟨before, htext⟩ := Web.Url.text_ended url place front
    rw [htext, htext]
    exact h before
  contentType := rfl
  body := rfl

/-- The request for an address that could be read. -/
theorem request_of_parse {c : Client} {now : Int} {a : Announcement} {url : Web.Url}
    (h : Web.Url.parse (c.address now (body a)) = .ok url) :
    c.request now a =
      if url.hasHost && isUsable (withoutUser url) then
        .ok ⟨withoutUser url, "application/json", body a⟩
      else .error (.unusableAddress (some (withoutUser url).text)) := by
  rw [request]
  simp only [h]

/-- What is read from an address with its signature at the end. -/
theorem request_of_ended {c : Client} {now : Int} {a : Announcement} {url : Web.Url}
    {place : Web.Url.Place} {front ending : List Char}
    (h : Web.Url.parse (c.address now (body a)) = .ok (url.ended place front ending)) :
    c.request now a =
      if url.hasHost && isUsable ((withoutUser url).ended place front ending) then
        .ok ⟨(withoutUser url).ended place front ending, "application/json", body a⟩
      else .error (.unusableAddress (some ((withoutUser url).ended place front ending).text)) := by
  have hhost : (url.ended place front ending).hasHost = url.hasHost := by cases place <;> rfl
  rw [request_of_parse h, withoutUser_ended, hhost]

/-- With another secret, the same request is made or it fails for the same reason, apart from the
value of the signature. -/
theorem request_resigned (now : Int) (a : Announcement) :
    Alike (c.ResignedCause secret) (c.ResignedRequest secret) (c.request now a)
      ((c.keyed secret).request now a) := by
  have hinert := c.inert_signature now (body a)
  have hother := (c.keyed secret).inert_signature now (body a)
  have hlength := c.length_signature now (body a)
  have hlengthOther := (c.keyed secret).length_signature now (body a)
  have haddress := c.address_eq now (body a)
  have haddressOther := (c.keyed secret).address_eq now (body a)
  have hsigned (before : String) : c.Resigned secret
      (before ++ String.ofList ("auth_signature=" ++ c.signatureOf now (body a)).toList)
      (before ++ String.ofList
        ("auth_signature=" ++ (c.keyed secret).signatureOf now (body a)).toList) := by
    have h : c.Resigned secret _ _ := .signed now (body a) before ""
    simpa only [String.ofList_toList, String.append_assoc, String.append_empty] using h
  -- From here on only the length and the characters of the two signatures matter.
  generalize ("auth_signature=" ++ c.signatureOf now (body a)).toList = ending at *
  generalize ("auth_signature=" ++ (c.keyed secret).signatureOf now (body a)).toList = other at *
  have hne : ending ≠ [] := List.ne_nil_of_length_pos (by omega)
  have hneOther : other ≠ [] := List.ne_nil_of_length_pos (by omega)
  have hsize : (String.ofList ending).utf8ByteSize = (String.ofList other).utf8ByteSize := by
    rw [hinert.utf8ByteSize, hother.utf8ByteSize, hlength, hlengthOther]
  rcases Web.Url.parse_ended (c.endpoint ++ c.path).toList (c.query now (body a) ++ "&").toList with
    ⟨e, hfails⟩ | ⟨url, place, front, hreads⟩
  · have hrequest {k : Client} (hparse : Web.Url.parse (k.address now (body a)) = .error e) :
        k.request now a = .error (.unusableAddress none) := by
      simp only [request, hparse]
    rw [hrequest (haddress ▸ hfails ending hinert hne),
      hrequest (haddressOther ▸ hfails other hother hneOther)]
    exact .error _ _ .unreadable
  · rw [request_of_ended (haddress ▸ hreads ending hinert hne),
      request_of_ended (haddressOther ▸ hreads other hother hneOther),
      isUsable_ended (withoutUser url) place front hsize]
    split
    · exact .ok _ _ (c.resignedRequest_ended secret (withoutUser url) place front _ _ hsigned)
    · refine .error _ _ (.unusable _ _ ?_)
      obtain ⟨before, htext⟩ := Web.Url.text_ended (withoutUser url) place front
      rw [htext, htext]
      exact hsigned before

variable {c secret}

/-- The same answer, or none for the same reason, means the same. -/
theorem ResignedRequest.outcome {r s : Request} (h : c.ResignedRequest secret r s)
    (reply : Except String Answer) :
    Alike (c.ResignedError secret) Eq (r.outcome reply) (s.outcome reply) := by
  cases reply with
  | error reason => exact .error _ _ (.request _ _ (.unanswered _ _ reason h.address))
  | ok answer =>
      simp only [Request.outcome]
      split
      · exact .ok _ _ rfl
      · exact .error _ _ (.same _)

/-- An announcement ends in the same way with another secret, if both requests are answered
alike. -/
theorem publish_resigned (now : Int) (a : Announcement)
    {network other : Request → Except String Answer}
    (h : ∀ r s, c.ResignedRequest secret r s → network r = other s) :
    Alike (c.ResignedError secret) Eq (c.publish now a network)
      ((c.keyed secret).publish now a other) := by
  have hrequest := c.request_resigned secret now a
  rw [publish, publish]
  generalize c.request now a = first at hrequest ⊢
  generalize (c.keyed secret).request now a = second at hrequest ⊢
  cases hrequest with
  | error e f hcause => exact .error _ _ (.request e f hcause)
  | ok r s hsame =>
      simp only [h r s hsame]
      exact hsame.outcome (other s)

end Client

end Pusher

end JobLog
