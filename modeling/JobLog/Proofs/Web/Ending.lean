import JobLog.Proofs.Web.Query

/-!
# The end of an address

The readers of an address stop at the first question mark. What stands before it decides whether
there is a scheme, a user, a server and a port, so the address is refused or read in the same way
whatever comes after (`parse_stops`). What comes last in it is found at the end of the query or of
the fragment, as long as it is `Inert`: nothing in it is dropped, encoded or a mark
(`parse_ended`).
-/

namespace JobLog.Web.Url

variable {known : Bool} {before left rest middle ending : List Char} {scheme : String}

/-! ## Reading up to the question mark -/

/-- Dropping characters goes no further than a question mark that is not dropped. -/
theorem dropWhile_stops {p : Char → Bool} (hmark : p '?' = false) (before rest : List Char) :
    (before ++ '?' :: rest).dropWhile p = before.dropWhile p ++ '?' :: rest := by
  induction before with
  | nil => exact List.dropWhile_cons_of_neg (by simp [hmark])
  | cons c before ih =>
      rw [List.cons_append, List.dropWhile_cons, List.dropWhile_cons, ih]
      split <;> rfl

theorem head?_stops (left rest : List Char) :
    (left ++ '?' :: rest).head? = (left ++ ['?']).head? := by
  cases left <;> rfl

/-- A scheme holds no question mark. -/
theorem scheme?_stops (before : List Char) :
    (∀ rest, scheme? (before ++ '?' :: rest) = none) ∨
      ∃ scheme left, ∀ rest, scheme? (before ++ '?' :: rest) = some (scheme, left ++ '?' :: rest) := by
  have hsplit (rest : List Char) : (before ++ '?' :: rest).span inScheme =
      (before.takeWhile inScheme, before.dropWhile inScheme ++ '?' :: rest) := by
    rw [List.span_eq_takeWhile_dropWhile, takeWhile_append_cons rfl, dropWhile_stops rfl]
  simp only [scheme?, hsplit]
  cases before.takeWhile inScheme with
  | nil => exact .inl fun _ => rfl
  | cons c name =>
      cases before.dropWhile inScheme with
      | nil => exact .inl fun _ => rfl
      | cons d left =>
          by_cases hcolon : d = ':'
          · subst hcolon
            cases hletter : c.isAlpha with
            | false => exact .inl fun rest => if_neg (by simp [hletter])
            | true => exact .inr ⟨_, left, fun rest => if_pos hletter⟩
          · exact .inl fun rest => by simp [hcolon]

/-- The user and the password end before the query. -/
theorem userInfo_stops (known : Bool) (before : List Char) :
    (∃ e, ∀ rest, userInfo known (before ++ '?' :: rest) = .error e) ∨
      ∃ user password left, ∀ rest,
        userInfo known (before ++ '?' :: rest) = .ok (user, password, left ++ '?' :: rest) := by
  have hends : endsAuthority known '?' = true := by cases known <;> rfl
  have hauthority (rest : List Char) :
      ((before ++ '?' :: rest).takeWhile fun c => !endsAuthority known c) =
        before.takeWhile fun c => !endsAuthority known c :=
    takeWhile_append_cons (by rw [hends]; rfl) before rest
  have hlength := (List.takeWhile_prefix (l := before) fun c => !endsAuthority known c).length_le
  simp only [userInfo, hauthority]
  generalize (before.takeWhile fun c => !endsAuthority known c) = authority at hlength ⊢
  by_cases hat : '@' ∈ authority
  · -- The user ends with an at sign that stands before the question mark.
    have hpos : 0 < authority.length := List.length_pos_of_mem hat
    generalize hinfo : authority.take _ = info
    have hle : info.length + 1 ≤ before.length := by
      rw [← hinfo, List.length_take]
      omega
    have hdrop (rest : List Char) : (before ++ '?' :: rest).drop (info.length + 1) =
        before.drop (info.length + 1) ++ '?' :: rest :=
      List.drop_append_of_le_length hle
    simp only [not_true, if_false, hdrop, hat]
    generalize before.drop (info.length + 1) = left
    simp only [head?_stops left]
    cases info.isEmpty && (left ++ ['?']).head?.any (endsAuthority known) with
    | true => exact .inl ⟨_, fun _ => rfl⟩
    | false => exact .inr ⟨_, _, left, fun _ => rfl⟩
  · exact .inr ⟨_, _, before, fun rest => if_pos hat⟩

/-- So does the name of the server. -/
theorem hostChars_stops (known inside : Bool) (before : List Char) :
    ∃ name left, ∀ rest, hostChars known inside (before ++ '?' :: rest) =
      (name, left ++ '?' :: rest) := by
  have hends : endsAuthority known '?' = true := by cases known <;> rfl
  induction before generalizing inside with
  | nil => exact ⟨[], [], fun rest => by simp [hostChars, hends]⟩
  | cons c before ih =>
      by_cases hstop : (c = ':' ∧ inside = false) ∨ endsAuthority known c = true
      · exact ⟨[], c :: before, fun rest => by rw [List.cons_append, hostChars, if_pos hstop]⟩
      · obtain ⟨name, left, hlater⟩ := ih (if c = '[' then true else if c = ']' then false else inside)
        refine ⟨c :: name, left, fun rest => ?_⟩
        rw [List.cons_append, hostChars, if_neg hstop, hlater]

/-- So does the number of a port. -/
theorem portNumber_stops (port : Nat) (before : List Char) :
    (∃ e, ∀ rest, portNumber port (before ++ '?' :: rest) = .error e) ∨
      ∃ number left, ∀ rest,
        portNumber port (before ++ '?' :: rest) = .ok (number, left ++ '?' :: rest) := by
  induction before generalizing port with
  | nil => exact .inr ⟨port, [], fun _ => rfl⟩
  | cons c before ih =>
      simp only [List.cons_append, portNumber]
      by_cases hdigit : c.isDigit = true
      · simp only [hdigit, if_true]
        by_cases hlarge : 65535 < 10 * port + (c.toNat - 48)
        · exact .inl ⟨_, fun _ => if_pos hlarge⟩
        · simp only [hlarge, if_false]
          exact ih _
      · simp only [hdigit, Bool.false_eq_true, if_false]
        by_cases hstop : c ∈ ['/', '\\', '?', '#']
        · exact .inr ⟨port, c :: before, fun _ => if_pos hstop⟩
        · exact .inl ⟨_, fun _ => if_neg hstop⟩

/-- So does the port with its colon. -/
theorem portPart_stops (scheme : String) (before : List Char) :
    (∃ e, ∀ rest, portPart scheme (before ++ '?' :: rest) = .error e) ∨
      ∃ port left, ∀ rest,
        portPart scheme (before ++ '?' :: rest) = .ok (port, left ++ '?' :: rest) := by
  cases before with
  | nil => exact .inr ⟨none, [], fun _ => rfl⟩
  | cons c before =>
      by_cases hcolon : c = ':'
      · subst hcolon
        rcases portNumber_stops 0 before with ⟨e, hfails⟩ | ⟨number, left, hreads⟩
        · refine .inl ⟨e, fun rest => ?_⟩
          simp only [List.cons_append, portPart, hfails]
          rfl
        · have hnone (rest : List Char) :
              ((left ++ '?' :: rest).length = (before ++ '?' :: rest).length) =
                (left.length = before.length) := by
            simp
          simp only [List.cons_append, portPart, hreads, bind, Except.bind, hnone]
          split
          · exact .inr ⟨none, left, fun _ => rfl⟩
          · exact .inr ⟨some number, left, fun _ => rfl⟩
      · refine .inr ⟨none, c :: before, fun rest => ?_⟩
        unfold portPart
        split
        · rename_i heq
          exact absurd (List.cons.inj heq).1 hcolon
        · rfl

theorem fileHost_stops (before : List Char) :
    ∃ name left, ∀ rest, fileHost (before ++ '?' :: rest) = (name, left ++ '?' :: rest) := by
  match before with
  | [] =>
      refine ⟨[], [], fun rest => ?_⟩
      cases rest <;> rfl
  | [c] =>
      refine ⟨[], [c], fun rest => ?_⟩
      have hmark : ¬((c = '/' ∨ c = '\\') ∧ ('?' = '/' ∨ '?' = '\\')) := by
        rintro ⟨-, h | h⟩ <;> cases h
      exact if_neg hmark
  | c :: d :: before =>
      have hspan (rest : List Char) :
          (before ++ '?' :: rest).span (fun c => !endsAuthority true c) =
            (before.takeWhile (fun c => !endsAuthority true c),
              before.dropWhile (fun c => !endsAuthority true c) ++ '?' :: rest) := by
        rw [List.span_eq_takeWhile_dropWhile, takeWhile_append_cons rfl, dropWhile_stops rfl]
      simp only [List.cons_append, fileHost, hspan]
      by_cases hslashes : (c = '/' ∨ c = '\\') ∧ (d = '/' ∨ d = '\\')
      · by_cases hdrive :
            isDrive (String.ofList (before.takeWhile fun c => !endsAuthority true c)) = true
        · exact ⟨[], before, fun rest => by rw [if_pos hslashes, if_pos hdrive]⟩
        · exact ⟨_, _, fun rest => by rw [if_pos hslashes, if_neg hdrive]⟩
      · exact ⟨[], c :: d :: before, fun _ => if_neg hslashes⟩

/-! ## The address that is read -/

/-- An address with the query and the fragment that a text ends with. -/
def closed (known : Bool) (url : Url) (s : List Char) : Url :=
  { url with query := (tail known s).2.1, fragment := (tail known s).2.2 }

/-- The path of an address does not reach beyond the question mark. -/
theorem tail_path (known : Bool) (left : List Char) :
    ∃ path, ∀ rest, (tail known (left ++ '?' :: rest)).1 = path := by
  have hpath (s : List Char) : (tail known s).1 =
      s.takeWhile fun c => decide (c ≠ '?') && decide (c ≠ '#') := by
    simp only [tail, cut_fst, List.takeWhile_takeWhile, Bool.decide_and, Bool.decide_eq_true]
  refine ⟨left.takeWhile fun c => decide (c ≠ '?') && decide (c ≠ '#'), fun rest => ?_⟩
  rw [hpath, takeWhile_append_cons rfl]

/-- The same address for all that may stand after the question mark, or none. -/
def Stops (read : List Char → Except UrlFault Url) : Prop :=
  (∃ e, ∀ rest, read rest = .error e) ∨
    ∃ known url left, ∀ rest, read rest = .ok (closed known url (left ++ '?' :: rest))

theorem Stops.fails {read : List Char → Except UrlFault Url} {e : UrlFault}
    (h : ∀ rest, read rest = .error e) : Stops read :=
  .inl ⟨e, h⟩

/-- What is read first does not depend on the rest. -/
theorem Stops.bind {α : Type} {x : Except UrlFault α} {next : List Char → α → Except UrlFault Url}
    (h : ∀ a, x = .ok a → Stops fun rest => next rest a) : Stops fun rest => x >>= next rest := by
  cases x with
  | error e => exact .fails fun _ => rfl
  | ok a => exact h a rfl

/-- What is read first leaves the rest. -/
theorem Stops.bind_left {α : Type} {first : List Char → Except UrlFault α}
    {found : List Char → α} {next : List Char → α → Except UrlFault Url}
    (hfirst : ∀ rest, first rest = .ok (found rest))
    (h : Stops fun rest => next rest (found rest)) :
    Stops fun rest => first rest >>= next rest := by
  simp only [hfirst]
  exact h

/-- A failure of what is read first does not depend on the rest either. -/
theorem Stops.bind_fails {α : Type} {first : List Char → Except UrlFault α} {e : UrlFault}
    {next : List Char → α → Except UrlFault Url} (h : ∀ rest, first rest = .error e) :
    Stops fun rest => first rest >>= next rest := by
  simp only [h]
  exact .fails fun _ => rfl

/-- A condition under which an address is refused does not depend on the rest. -/
theorem Stops.unless {fails : Prop} [Decidable fails] {e : UrlFault}
    {next read : List Char → Except UrlFault Url} (h : Stops read) :
    Stops fun rest =>
      if fails then (throw e : Except UrlFault PUnit) >>= fun _ => next rest else read rest := by
  by_cases hfails : fails
  · exact .fails fun rest => if_pos hfails
  · simp only [hfails, if_false]
    exact h

/-- User, server and port are read before the question mark. -/
theorem parseAuthority_stops (scheme : String) (before : List Char) :
    Stops fun rest => parseAuthority scheme (before ++ '?' :: rest) := by
  simp only [parseAuthority]
  generalize isKnown scheme = known
  rcases userInfo_stops known before with ⟨e, hfails⟩ | ⟨user, password, left, huser⟩
  · exact .bind_fails hfails
  refine .bind_left huser ?_
  obtain ⟨name, left, hname⟩ := hostChars_stops known false left
  simp only [hname, head?_stops left]
  refine .unless ?_
  split
  all_goals
    refine .bind fun host _ => .unless ?_
    rcases portPart_stops scheme left with ⟨e, hfails⟩ | ⟨port, left, hport⟩
    · exact .bind_fails hfails
    · refine .bind_left hport ?_
      obtain ⟨path, hpath⟩ := tail_path known left
      simp only [hpath]
      exact .inr ⟨known, ⟨scheme, user, password, some (host.getD (.name "")), port,
        hostPath known path, none, none⟩, left, fun _ => rfl⟩

/-- So is the server of a file. -/
theorem parseFile_stops (before : List Char) :
    Stops fun rest => parseFile (before ++ '?' :: rest) := by
  obtain ⟨name, left, hname⟩ := fileHost_stops before
  obtain ⟨path, hpath⟩ := tail_path true left
  simp only [parseFile, hname, hpath]
  split
  all_goals
    refine .bind fun host _ => ?_
    exact .inr ⟨true, ⟨"file", "", none,
      some (if host = .name "localhost" ∨ (filePath path).2 = true then .name "" else host), none,
      (filePath path).1, none, none⟩, left, fun _ => rfl⟩

/-- An address whose scheme has been read. -/
def afterScheme (scheme : String) (s : List Char) : Except UrlFault Url :=
  if scheme = "file" then parseFile s
  else if isKnown scheme then parseAuthority scheme (s.dropWhile isSlash)
  else match s with
    | '/' :: '/' :: s => parseAuthority scheme s
    | _ =>
      let (path, query, fragment) := tail false s
      .ok ⟨scheme, "", none, none, none, loosePath path, query, fragment⟩

/-- An address is its scheme and what comes after it. -/
theorem parse_eq (s : String) :
    parse s = match scheme? (cleaned s.toList) with
      | none => .error .noScheme
      | some (scheme, rest) => afterScheme scheme rest :=
  rfl

theorem afterScheme_slashes (hfile : scheme ≠ "file") (hknown : isKnown scheme = false)
    (s : List Char) : afterScheme scheme ('/' :: '/' :: s) = parseAuthority scheme s := by
  simp [afterScheme, hfile, hknown]

theorem afterScheme_loose (hfile : scheme ≠ "file") (hknown : isKnown scheme = false)
    {s : List Char} (hs : ∀ t, s ≠ '/' :: '/' :: t) :
    afterScheme scheme s = .ok ⟨scheme, "", none, none, none, loosePath (tail false s).1,
      (tail false s).2.1, (tail false s).2.2⟩ := by
  simp only [afterScheme, hfile, hknown, if_false, Bool.false_eq_true]

/-- Every kind of address is read up to the question mark, whatever comes after. -/
theorem afterScheme_stops (scheme : String) (before : List Char) :
    Stops fun rest => afterScheme scheme (before ++ '?' :: rest) := by
  have hslash : isSlash '?' = false := rfl
  by_cases hfile : scheme = "file"
  · simp only [afterScheme, hfile, if_true]
    exact parseFile_stops before
  cases hknown : isKnown scheme with
  | true =>
      simp only [afterScheme, hfile, hknown, if_false, if_true, dropWhile_stops hslash]
      exact parseAuthority_stops scheme (before.dropWhile isSlash)
  | false =>
      by_cases hslashes : ∃ inner, before = '/' :: '/' :: inner
      · obtain ⟨inner, rfl⟩ := hslashes
        simp only [List.cons_append, afterScheme_slashes hfile hknown]
        exact parseAuthority_stops scheme inner
      · have hloose (rest : List Char) : ∀ t, before ++ '?' :: rest ≠ '/' :: '/' :: t := by
          intro t heq
          rcases before with _ | ⟨c, _ | ⟨d, inner⟩⟩
          · cases (List.cons.inj heq).1
          · cases (List.cons.inj (List.cons.inj heq).2).1
          · obtain ⟨hc, heq⟩ := List.cons.inj heq
            obtain ⟨hd, -⟩ := List.cons.inj heq
            exact hslashes ⟨inner, by rw [hc, hd]⟩
        obtain ⟨path, hpath⟩ := tail_path false before
        simp only [afterScheme_loose hfile hknown (hloose _), hpath]
        exact .inr ⟨false, ⟨scheme, "", none, none, none, loosePath path, none, none⟩, before,
          fun _ => rfl⟩

/-- Whatever comes after the first question mark, an address is refused with the same fault or read
with the same parts before its query. -/
theorem parse_stops (before : List Char) :
    (∃ e, ∀ s rest, cleaned s.toList = before ++ '?' :: rest → parse s = .error e) ∨
      ∃ known url left, ∀ s rest, cleaned s.toList = before ++ '?' :: rest →
        parse s = .ok (closed known url (left ++ '?' :: rest)) := by
  rcases scheme?_stops before with hnone | ⟨scheme, inner, hscheme⟩
  · refine .inl ⟨.noScheme, fun s rest hs => ?_⟩
    rw [parse_eq, hs, hnone]
  · rcases afterScheme_stops scheme inner with ⟨e, hfails⟩ | ⟨known, url, left, hreads⟩
    · refine .inl ⟨e, fun s rest hs => ?_⟩
      rw [parse_eq, hs, hscheme]
      exact hfails rest
    · refine .inr ⟨known, url, left, fun s rest hs => ?_⟩
      rw [parse_eq, hs, hscheme]
      exact hreads rest

/-! ## What comes last -/

/-- Characters that are neither dropped nor encoded at the end of an address, nor marks in it. -/
def inert : List Char :=
  "abcdefghijklmnopqrstuvwxyz0123456789_=".toList

/-- A text of such characters. -/
def Inert (s : List Char) : Prop :=
  ∀ c ∈ s, c ∈ inert

/-- Inert characters are visible and kept, end no query, and are encoded nowhere. -/
theorem inert_passes : ∀ c ∈ inert, 0x20 < c.toNat ∧ isKept c = true ∧ c ≠ '#' ∧
    inFragment c = false ∧ ∀ known, inQuery known c = false :=
  all_decide_iff.1 (by decide)

/-- The place where the end of an address is found. -/
inductive Place where
  | query
  | fragment

/-- An address that ends with a text. -/
def ended (url : Url) (place : Place) (front ending : List Char) : Url :=
  match place with
  | .query => { url with query := some (String.ofList (front ++ ending)), fragment := none }
  | .fragment => { url with fragment := some (String.ofList (front ++ ending)) }

theorem cleaned_ending (before middle : List Char) :
    ∃ front, ∀ ending, Inert ending → ending ≠ [] →
      cleaned (before ++ '?' :: (middle ++ ending)) =
        front ++ '?' :: (middle.filter isKept ++ ending) := by
  let outer (c : Char) : Bool := c.toNat ≤ 0x20
  refine ⟨(before.dropWhile outer).filter isKept, fun ending hinert hne => ?_⟩
  obtain ⟨init, last, rfl⟩ : ∃ init last, ending = init ++ [last] :=
    ⟨_, _, (List.dropLast_concat_getLast hne).symm⟩
  have hlast : outer last = false := by
    have hvisible := (inert_passes last (hinert last (by simp))).1
    exact decide_eq_false (by omega)
  have hkept : (init ++ [last]).filter isKept = init ++ [last] :=
    List.filter_eq_self.2 fun c hc => (inert_passes c (hinert c hc)).2.1
  have hfront : (before ++ '?' :: (middle ++ (init ++ [last]))).dropWhile outer =
      before.dropWhile outer ++ '?' :: (middle ++ (init ++ [last])) :=
    dropWhile_stops rfl before _
  -- The last character is visible, so nothing is dropped behind it.
  have hback : ((before.dropWhile outer ++ '?' :: (middle ++ (init ++ [last]))).reverse.dropWhile
      outer).reverse = before.dropWhile outer ++ '?' :: (middle ++ (init ++ [last])) := by
    have hreverse : (before.dropWhile outer ++ '?' :: (middle ++ (init ++ [last]))).reverse =
        last :: (before.dropWhile outer ++ '?' :: (middle ++ init)).reverse := by
      simp
    rw [hreverse, List.dropWhile_cons_of_neg (by simp [hlast]), ← hreverse, List.reverse_reverse]
  calc cleaned (before ++ '?' :: (middle ++ (init ++ [last])))
      = (before.dropWhile outer ++ '?' :: (middle ++ (init ++ [last]))).filter isKept := by
        rw [← hback, ← hfront]
        rfl
    _ = (before.dropWhile outer).filter isKept ++
          '?' :: (middle.filter isKept ++ (init ++ [last])) := by
        rw [List.filter_append, List.filter_cons_of_pos rfl, List.filter_append, hkept]

/-- An inert end of the text is the end of the query, or of the fragment if there is one. -/
theorem closed_ending (known : Bool) (url : Url) (left middle : List Char) :
    ∃ (read : Url) (place : Place) (front : List Char), ∀ ending, Inert ending →
      closed known url (left ++ '?' :: (middle ++ ending)) = read.ended place front ending := by
  have hsplit (ending : List Char) :
      left ++ '?' :: (middle ++ ending) = (left ++ '?' :: middle) ++ ending := by
    simp
  have hmark : '?' ∈ left ++ '?' :: middle := by simp
  simp only [hsplit]
  generalize left ++ '?' :: middle = s at hmark
  by_cases hhash : '#' ∈ s
  · obtain ⟨main, after, rfl, hmain⟩ := List.eq_append_cons_of_mem hhash
    refine ⟨{ url with
      query := (cut '?' main).2.map fun q => String.ofList (encodeChars (inQuery known) q) },
      .fragment, encodeChars inFragment after, fun ending hinert => ?_⟩
    have hending : encodeChars inFragment ending = ending :=
      encodeChars_eq_self fun c hc => (inert_passes c (hinert c hc)).2.2.2.1
    have hcut : cut '#' (main ++ '#' :: after ++ ending) = (main, some (after ++ ending)) := by
      rw [List.append_assoc, List.cons_append, cut_append hmain]
    simp only [closed, tail, hcut, Option.map_some, encodeChars_append, hending]
    rfl
  · obtain ⟨path, after, rfl, hpath⟩ := List.eq_append_cons_of_mem hmark
    refine ⟨url, .query, encodeChars (inQuery known) after, fun ending hinert => ?_⟩
    have hending : encodeChars (inQuery known) ending = ending :=
      encodeChars_eq_self fun c hc => (inert_passes c (hinert c hc)).2.2.2.2 known
    have hnone : '#' ∉ path ++ '?' :: after ++ ending := by
      intro hmem
      rcases List.mem_append.1 hmem with hmem | hmem
      · exact hhash hmem
      · exact (inert_passes _ (hinert _ hmem)).2.2.1 rfl
    have hcut : cut '?' (path ++ '?' :: after ++ ending) = (path, some (after ++ ending)) := by
      rw [List.append_assoc, List.cons_append, cut_append hpath]
    simp only [closed, tail, cut_of_not_mem hnone, hcut, Option.map_some, Option.map_none,
      encodeChars_append, hending]
    rfl

/-- Texts that differ in an inert end only are refused alike, or read as addresses that differ in
the end of their query or fragment only. -/
theorem parse_ended (before middle : List Char) :
    (∃ e, ∀ ending, Inert ending → ending ≠ [] →
      parse (String.ofList (before ++ '?' :: (middle ++ ending))) = .error e) ∨
    ∃ (url : Url) (place : Place) (front : List Char), ∀ ending, Inert ending → ending ≠ [] →
      parse (String.ofList (before ++ '?' :: (middle ++ ending))) =
        .ok (url.ended place front ending) := by
  obtain ⟨start, hcleaned⟩ := cleaned_ending before middle
  rcases parse_stops start with ⟨e, hfails⟩ | ⟨known, url, left, hreads⟩
  · refine .inl ⟨e, fun ending hinert hne => hfails _ (middle.filter isKept ++ ending) ?_⟩
    rw [String.toList_ofList, hcleaned ending hinert hne]
  · obtain ⟨read, place, front, hclosed⟩ := closed_ending known url left (middle.filter isKept)
    refine .inr ⟨read, place, front, fun ending hinert hne => ?_⟩
    rw [hreads _ (middle.filter isKept ++ ending), hclosed ending hinert]
    rw [String.toList_ofList, hcleaned ending hinert hne]

/-! ## Their texts -/

variable (url : Url) (place : Place) (front : List Char)

/-- The text of an address ends with the end of its query or fragment. -/
theorem text_ended : ∃ before, ∀ ending,
    (url.ended place front ending).text = before ++ String.ofList ending := by
  cases place with
  | query =>
      refine ⟨url.scheme ++ ":" ++ url.authority ++ url.path ++ "?" ++ String.ofList front,
        fun ending => ?_⟩
      show url.scheme ++ ":" ++ url.authority ++ (url.path ++ ("?" ++
        String.ofList (front ++ ending))) ++ "" = _
      simp only [String.ofList_append, String.append_assoc, String.append_empty]
  | fragment =>
      refine ⟨url.scheme ++ ":" ++ url.authority ++ url.target ++ "#" ++ String.ofList front,
        fun ending => ?_⟩
      show url.scheme ++ ":" ++ url.authority ++ url.target ++ ("#" ++
        String.ofList (front ++ ending)) = _
      simp only [String.ofList_append, String.append_assoc]

/-- A request names the end of the query, and never the fragment. -/
theorem target_ended : (∃ before, ∀ ending,
    (url.ended place front ending).target = before ++ String.ofList ending) ∨
      ∀ ending, (url.ended place front ending).target = url.target := by
  cases place with
  | query =>
      refine .inl ⟨url.path ++ "?" ++ String.ofList front, fun ending => ?_⟩
      show url.path ++ ("?" ++ String.ofList (front ++ ending)) = _
      simp only [String.ofList_append, String.append_assoc]
  | fragment => exact .inr fun _ => rfl

end JobLog.Web.Url
