import JobLog.Proofs.Web.Percent
import JobLog.Web.Url
import Mathlib.Data.List.TakeWhile

/-!
# What follows the server in an address

The readers of user, host and port leave what stands behind the part of an address that names the
server, whatever they find in it (`parseAuthority_readAfter`). So a path that is added to an address
with a server is read where it was added (`readAfter_append`).
-/

namespace JobLog.Web.Url

variable {known : Bool} {s rest before after : List Char} {c : Char}

/-! ## The part that names the server -/

/-- What follows the part of an address that names the server. -/
def afterAuthority (known : Bool) (s : List Char) : List Char :=
  s.dropWhile fun c => !endsAuthority known c

/-- Characters that all belong to the part that names the server. -/
def InAuthority (known : Bool) (s : List Char) : Prop :=
  ∀ c ∈ s, endsAuthority known c = false

/-- That part is over here. -/
def AtEnd (known : Bool) (s : List Char) : Prop :=
  s = [] ∨ ∃ c rest, s = c :: rest ∧ endsAuthority known c = true

theorem atEnd_afterAuthority (known : Bool) (s : List Char) :
    AtEnd known (afterAuthority known s) := by
  cases hafter : afterAuthority known s with
  | nil => exact .inl rfl
  | cons c rest =>
      have hhead := List.head?_dropWhile_not (fun c => !endsAuthority known c) s
      rw [show s.dropWhile (fun c => !endsAuthority known c) = c :: rest from hafter] at hhead
      exact .inr ⟨c, rest, rfl, by simpa using hhead⟩

theorem authority_append (known : Bool) (s : List Char) :
    (s.takeWhile fun c => !endsAuthority known c) ++ afterAuthority known s = s :=
  List.takeWhile_append_dropWhile

theorem inAuthority_takeWhile (known : Bool) (s : List Char) :
    InAuthority known (s.takeWhile fun c => !endsAuthority known c) := fun c hc => by
  simpa using List.mem_takeWhile_imp hc

/-- Less of the server's part may be left. -/
theorem drop_inAuthority {authority : List Char} (h : InAuthority known authority) {n : Nat}
    (hn : n ≤ authority.length) (after : List Char) :
    ∃ host, InAuthority known host ∧ (authority ++ after).drop n = host ++ after :=
  ⟨authority.drop n, fun c hc => h c (List.mem_of_mem_drop hc),
    List.drop_append_of_le_length hn⟩

theorem userInfo_rest {user : String} {password : Option String}
    (h : userInfo known s = .ok (user, password, rest)) :
    ∃ host, InAuthority known host ∧ rest = host ++ afterAuthority known s := by
  have hsplit := authority_append known s
  have hinside := inAuthority_takeWhile known s
  unfold userInfo at h
  generalize (s.takeWhile fun c => !endsAuthority known c) = authority at h hsplit hinside
  simp only at h
  split at h
  · cases h
    exact ⟨authority, hinside, hsplit.symm⟩
  · rename_i hat
    split at h <;> cases h
    -- The user ends with the last at sign, and that is one of the characters of this part.
    have hpos : 0 < authority.length := by
      cases authority with
      | nil => exact absurd List.not_mem_nil hat
      | cons => exact Nat.succ_pos _
    generalize hinfo : List.length (List.take _ authority) = info
    rw [List.length_take] at hinfo
    have hle : info + 1 ≤ authority.length := by omega
    obtain ⟨host, hhost, hdrop⟩ := drop_inAuthority hinside hle (afterAuthority known s)
    rw [hsplit] at hdrop
    exact ⟨host, hhost, hdrop⟩

theorem hostChars_rest (inside : Bool) (hbefore : InAuthority known before)
    (hafter : AtEnd known after) :
    ∃ port, (hostChars known inside (before ++ after)).2 = port ++ after ∧
      InAuthority known port ∧ (port = [] ∨ ∃ digits, port = ':' :: digits) := by
  induction before generalizing inside with
  | nil =>
      refine ⟨[], ?_, nofun, .inl rfl⟩
      rcases hafter with rfl | ⟨c, rest, rfl, hends⟩
      · rfl
      · simp only [List.nil_append, hostChars, hends, or_true, if_true]
  | cons c before ih =>
      have hc : endsAuthority known c = false := hbefore c List.mem_cons_self
      have hrest : InAuthority known before := fun d hd => hbefore d (List.mem_cons_of_mem _ hd)
      by_cases hcolon : c = ':' ∧ inside = false
      · refine ⟨c :: before, ?_, hbefore, .inr ⟨before, by rw [hcolon.1]⟩⟩
        rw [List.cons_append, hostChars, if_pos (.inl hcolon)]
      · obtain ⟨port, heq, hport⟩ := ih _ hrest
        refine ⟨port, ?_, hport⟩
        rw [List.cons_append, hostChars, if_neg (by simp [hcolon, hc])]
        exact heq

theorem endsAuthority_true_iff :
    endsAuthority true c = true ↔ c = '/' ∨ c = '?' ∨ c = '#' ∨ c = '\\' := by
  simp [endsAuthority, or_assoc]

/-- The number of a port is followed by the end of the server's part. -/
theorem portNumber_rest {port n : Nat} {digits : List Char} (hdigits : InAuthority true digits)
    (hafter : AtEnd true after) (h : portNumber port (digits ++ after) = .ok (n, rest)) :
    rest = after := by
  induction digits generalizing port with
  | nil =>
      rcases hafter with rfl | ⟨c, tail, rfl, hends⟩
      · cases h
        rfl
      · rw [List.nil_append, portNumber] at h
        rcases endsAuthority_true_iff.1 hends with rfl | rfl | rfl | rfl <;> cases h <;> rfl
  | cons c digits ih =>
      have hc := hdigits c List.mem_cons_self
      rw [List.cons_append, portNumber] at h
      split at h
      · simp only at h
        split at h
        · cases h
        · exact ih (fun d hd => hdigits d (List.mem_cons_of_mem _ hd)) h
      · split at h
        · rename_i hstop
          have hends : endsAuthority true c = true := by
            simp only [List.mem_cons, List.not_mem_nil, or_false] at hstop
            rcases hstop with rfl | rfl | rfl | rfl <;> rfl
          rw [hc] at hends
          cases hends
        · cases h

theorem portPart_rest {scheme : String} {port : List Char} {number : Option Nat}
    (hport : InAuthority true port) (hcolon : port = [] ∨ ∃ digits, port = ':' :: digits)
    (hafter : AtEnd true after) (h : portPart scheme (port ++ after) = .ok (number, rest)) :
    rest = after := by
  rcases hcolon with rfl | ⟨digits, rfl⟩
  · rcases hafter with rfl | ⟨c, tail, rfl, hends⟩
    · cases h
      rfl
    · rcases endsAuthority_true_iff.1 hends with rfl | rfl | rfl | rfl <;> cases h <;> rfl
  · have hdigits : InAuthority true digits := fun c hc => hport c (List.mem_cons_of_mem _ hc)
    simp only [List.cons_append, portPart, bind, Except.bind] at h
    split at h
    · cases h
    · rename_i read hread
      obtain ⟨n, left⟩ := read
      have hleft := portNumber_rest hdigits hafter hread
      simp only at h
      split at h <;> cases h <;> exact hleft

/-- Whatever is read has a property. -/
def Yields {ε α : Type} (P : α → Prop) (x : Except ε α) : Prop :=
  ∀ a, x = .ok a → P a

theorem Yields.bind {ε α β : Type} {P : β → Prop} {x : Except ε α} {f : α → Except ε β}
    (h : ∀ a, x = .ok a → Yields P (f a)) : Yields P (x >>= f) := by
  cases x with
  | error => exact nofun
  | ok a => exact h a rfl

/-- A reader that fails under a condition. -/
theorem Yields.unless {ε α : Type} {P : α → Prop} {fails : Prop} [Decidable fails] {e : ε}
    {next x : Except ε α} (h : Yields P x) :
    Yields P (if fails then (throw e : Except ε PUnit) >>= fun _ => next else x) := by
  split
  · exact nofun
  · exact h

/-- Path, query and fragment of an address are read from what follows the server's part. -/
def ReadAfter (s : List Char) (url : Url) : Prop :=
  url.path = hostPath true (tail true s).1 ∧ url.query = (tail true s).2.1 ∧
    url.fragment = (tail true s).2.2

theorem parseAuthority_readAfter {scheme : String} (hknown : isKnown scheme = true) (s : List Char) :
    Yields (ReadAfter (afterAuthority true s)) (parseAuthority scheme s) := by
  unfold parseAuthority
  simp only [hknown]
  refine .bind fun info hinfo => ?_
  obtain ⟨user, password, rest⟩ := info
  obtain ⟨host, hhost, rfl⟩ := userInfo_rest hinfo
  obtain ⟨port, hrest, hport, hcolon⟩ := hostChars_rest false hhost
    (atEnd_afterAuthority true s)
  simp only [hrest]
  have hlast {read : Option Nat × List Char}
      (hread : portPart scheme (port ++ afterAuthority true s) = .ok read) :
      read.2 = afterAuthority true s :=
    portPart_rest hport hcolon (atEnd_afterAuthority true s) hread
  refine .unless ?_
  -- The host is read in one of two ways, but either way nothing but the port is read after it.
  split
  all_goals
    refine .bind fun name _ => .unless (.bind fun read hread => ?_)
    rintro url ⟨⟩
    rw [hlast hread]
    exact ⟨rfl, rfl, rfl⟩

/-! ## Addresses of the web -/

/-- What is not dropped from an address wherever it stands. -/
def isKept (c : Char) : Bool :=
  c ≠ '\t' && c ≠ '\n' && c ≠ '\r'

def isSlash (c : Char) : Bool :=
  c == '/' || c == '\\'

/-- The schemes of the web. -/
def IsWeb (scheme : String) : Prop :=
  scheme = "http" ∨ scheme = "https"

/-- An address whose ends are visible loses tabs and line breaks only. -/
theorem cleaned_web {scheme : String} (hscheme : IsWeb scheme) {last : Char}
    (hlast : 0x20 < last.toNat) (middle : List Char) :
    cleaned (scheme.toList ++ ':' :: (middle ++ [last])) =
      scheme.toList ++ ':' :: (middle ++ [last]).filter isKept := by
  have hends {first : Char} (hfirst : 0x20 < first.toNat) (inner : List Char) :
      cleaned (first :: (inner ++ [last])) = (first :: (inner ++ [last])).filter isKept := by
    have hreverse : (first :: (inner ++ [last])).reverse = last :: (first :: inner).reverse := by
      simp
    have hback : (last :: (first :: inner).reverse).reverse = first :: (inner ++ [last]) := by
      simp
    simp only [cleaned, List.dropWhile_cons, Nat.not_le.2 hfirst, Nat.not_le.2 hlast, decide_false,
      hreverse, Bool.false_eq_true, if_false, hback]
    rfl
  rcases hscheme with rfl | rfl
  · exact @hends 'h' (by decide) ("ttp:".toList ++ middle)
  · exact @hends 'h' (by decide) ("ttps:".toList ++ middle)

theorem scheme?_web {scheme : String} (hscheme : IsWeb scheme) (rest : List Char) :
    scheme? (scheme.toList ++ ':' :: rest) = some (scheme, rest) := by
  rcases hscheme with rfl | rfl <;> rfl

theorem isKnown_web {scheme : String} (hscheme : IsWeb scheme) :
    isKnown scheme = true ∧ scheme ≠ "file" := by
  rcases hscheme with rfl | rfl <;> decide

/-- An address of the web is read from behind the slashes that follow its scheme. -/
theorem parse_web {scheme : String} (hscheme : IsWeb scheme) {last : Char}
    (hlast : 0x20 < last.toNat) (middle : List Char) :
    parse (String.ofList (scheme.toList ++ ':' :: (middle ++ [last]))) =
      parseAuthority scheme (((middle ++ [last]).filter isKept).dropWhile isSlash) := by
  obtain ⟨hknown, hfile⟩ := isKnown_web hscheme
  simp only [parse, String.toList_ofList, cleaned_web hscheme hlast, scheme?_web hscheme, hknown,
    hfile, if_false, if_true]
  rfl

/-! ## More at the end of an address -/

/-- What an address without a scheme has between the name of its server and its end. -/
def afterServer (s : List Char) : List Char :=
  afterAuthority true ((s.filter isKept).dropWhile isSlash)

/-- Whether an address without a scheme names a server. -/
def NamesServer (s : List Char) : Prop :=
  (s.filter isKept).dropWhile isSlash ≠ []

theorem afterAuthority_append_slash (s rest : List Char) :
    afterAuthority true (s ++ '/' :: rest) = afterAuthority true s ++ '/' :: rest := by
  have hslash : endsAuthority true '/' = true := rfl
  rw [afterAuthority, List.dropWhile_append, List.dropWhile_cons, hslash]
  split
  · rename_i hempty
    rw [afterAuthority, List.isEmpty_iff.1 hempty]
    rfl
  · rfl

theorem parse_append_slash {scheme : String} (hscheme : IsWeb scheme) {last : Char}
    (hlast : 0x20 < last.toNat) (s path : List Char) :
    parse (String.ofList (scheme.toList ++ ':' :: (s ++ '/' :: (path ++ [last])))) =
      parseAuthority scheme
        ((s.filter isKept ++ '/' :: (path ++ [last]).filter isKept).dropWhile isSlash) := by
  have hassoc : s ++ '/' :: (path ++ [last]) = (s ++ '/' :: path) ++ [last] := by simp
  have hfilter : (s ++ '/' :: (path ++ [last])).filter isKept =
      s.filter isKept ++ '/' :: (path ++ [last]).filter isKept :=
    List.filter_append ..
  rw [hassoc, parse_web hscheme hlast, ← hassoc, hfilter]

/-- A path that is added to an address with a server is read after what follows the server. -/
theorem readAfter_append {scheme : String} (hscheme : IsWeb scheme) {s : List Char}
    (hserver : NamesServer s) {last : Char} (hlast : 0x20 < last.toNat) (path : List Char) :
    Yields (ReadAfter (afterServer s ++ '/' :: (path ++ [last]).filter isKept))
      (parse (String.ofList (scheme.toList ++ ':' :: (s ++ '/' :: (path ++ [last]))))) := by
  have hrest : ¬ ((s.filter isKept).dropWhile isSlash).isEmpty = true := by
    rwa [List.isEmpty_iff]
  rw [parse_append_slash hscheme hlast, List.dropWhile_append, if_neg hrest, afterServer,
    ← afterAuthority_append_slash]
  exact parseAuthority_readAfter (isKnown_web hscheme).1 _

/-- If an address names no server, a name that is added as its path is taken for that of the server,
and there is no path. -/
theorem path_eq_of_not_namesServer {scheme : String} (hscheme : IsWeb scheme) {s : List Char}
    (hserver : ¬ NamesServer s) {last : Char} (hlast : 0x20 < last.toNat) {name : List Char}
    (hname : InAuthority true (name ++ [last])) :
    Yields (fun url => url.path = "/")
      (parse (String.ofList (scheme.toList ++ ':' :: (s ++ '/' :: (name ++ [last]))))) := by
  have hrest : ((s.filter isKept).dropWhile isSlash).isEmpty = true :=
    List.isEmpty_iff.2 (not_not.1 hserver)
  have hnothing :
      afterAuthority true (((name ++ [last]).filter isKept).dropWhile isSlash) = [] := by
    refine List.dropWhile_eq_nil_iff.2 fun c hc => ?_
    rw [hname c (List.mem_filter.1 ((List.dropWhile_suffix isSlash).subset hc)).1]
    rfl
  rw [parse_append_slash hscheme hlast, List.dropWhile_append, if_pos hrest,
    List.dropWhile_cons_of_pos rfl]
  intro url hread
  rw [(parseAuthority_readAfter (isKnown_web hscheme).1 _ url hread).1, hnothing]
  rfl

end JobLog.Web.Url
