import JobLog.Proofs.Web.Address
import Mathlib.Data.List.TakeDrop

/-!
# The path of an address

A path is taken from an address as it is written if and only if it is `Straight`: nothing in it must
be encoded, no backslash stands for a slash, and no segment stands for another place. This is so
whatever comes before it, as long as that leads to the root of a server (`parse_path_query`).
-/

namespace JobLog.Web.Url

variable {known : Bool} {mark c : Char} {s base before after : List Char}

/-! ## Where path and query end -/

/-- Where a mark does not stand, looking for it goes on. -/
theorem decide_ne_of_not_mem (h : mark ∉ s) : ∀ c ∈ s, decide (c ≠ mark) = true := fun _ hc =>
  decide_eq_true fun heq => h (heq ▸ hc)

/-- Without the mark nothing is cut off. -/
theorem cut_of_not_mem (h : mark ∉ s) : cut mark s = (s, none) := by
  have hall := decide_ne_of_not_mem h
  rw [cut, List.span_eq_takeWhile_dropWhile, List.takeWhile_eq_self_iff.2 hall,
    List.dropWhile_eq_nil_iff.2 hall]

/-- A text is cut at the first mark. -/
theorem cut_append (h : mark ∉ before) (after : List Char) :
    cut mark (before ++ mark :: after) = (before, some after) := by
  have hall := decide_ne_of_not_mem h
  rw [cut, List.span_eq_takeWhile_dropWhile, List.takeWhile_append_of_pos hall,
    List.dropWhile_append_of_pos hall, List.takeWhile_cons_of_neg (by simp),
    List.dropWhile_cons_of_neg (by simp), List.append_nil]

/-- What stands before the cut, whether or not there is one. -/
theorem cut_fst (mark : Char) (s : List Char) : (cut mark s).1 = s.takeWhile (· ≠ mark) := by
  rw [cut, List.span_eq_takeWhile_dropWhile]
  split <;> (rename_i heq; exact (congrArg Prod.fst heq).symm)

/-- An address without fragment and query has no marks for them. -/
theorem not_mem_of_tail (hquery : (tail known s).2.1 = none)
    (hfragment : (tail known s).2.2 = none) : '#' ∉ s ∧ '?' ∉ s := by
  have hcut {mark : Char} {s : List Char} (h : (cut mark s).2 = none) : mark ∉ s := by
    intro hmem
    obtain ⟨before, after, rfl, hbefore⟩ := List.eq_append_cons_of_mem hmem
    rw [cut_append hbefore] at h
    cases h
  have hhash : '#' ∉ s := hcut (Option.map_eq_none_iff.1 hfragment)
  refine ⟨hhash, ?_⟩
  simp only [tail, cut_of_not_mem hhash] at hquery
  exact hcut (Option.map_eq_none_iff.1 hquery)

/-- A path ends at the first question mark, and a query at the first number sign. -/
theorem tail_query (known : Bool) (hhash : '#' ∉ before) (hmark : '?' ∉ before)
    (after : List Char) :
    (tail known (before ++ '?' :: after)).1 = before ∧
      (tail known (before ++ '?' :: after)).2.1 =
        some (String.ofList (encodeChars (inQuery known) (after.takeWhile (· ≠ '#')))) := by
  have hmain :
      (cut '#' (before ++ '?' :: after)).1 = before ++ '?' :: after.takeWhile (· ≠ '#') := by
    rw [cut_fst, List.takeWhile_append_of_pos (decide_ne_of_not_mem hhash),
      List.takeWhile_cons_of_pos (by decide)]
  simp only [tail, hmain, cut_append hmark, Option.map_some, and_self]

/-! ## Parts of a text -/

/-- Only the characters of the text itself decide where it is split. -/
theorem splitOnP_congr {p q : Char → Bool} (h : ∀ c ∈ s, p c = q c) :
    s.splitOnP p = s.splitOnP q := by
  induction s with
  | nil => rw [List.splitOnP_nil, List.splitOnP_nil]
  | cons c s ih =>
      rw [List.splitOnP_cons_eq_if_modifyHead, List.splitOnP_cons_eq_if_modifyHead,
        h c List.mem_cons_self, ih fun d hd => h d (List.mem_cons_of_mem _ hd)]

/-- Joining is done in two halves if neither is empty; a mark stands between them. -/
theorem intercalate_append {front rest : List (List Char)} (hfront : front ≠ [])
    (hrest : rest ≠ []) :
    [mark].intercalate (front ++ rest) =
      [mark].intercalate front ++ mark :: [mark].intercalate rest := by
  induction front with
  | nil => exact absurd rfl hfront
  | cons part front ih =>
      cases front with
      | nil =>
          rw [List.singleton_append, List.intercalate_cons_of_ne_nil hrest, List.append_assoc,
            List.intercalate_singleton]
          rfl
      | cons next front =>
          rw [List.cons_append, List.cons_append, List.intercalate_cons_cons,
            List.intercalate_cons_cons, ← List.cons_append, ih (List.cons_ne_nil _ _),
            List.append_assoc, List.append_assoc, List.append_assoc]

/-- A character of a joined text is a mark or comes from one of the parts. -/
theorem mem_intercalate {parts : List (List Char)} (h : c ∈ [mark].intercalate parts) :
    c = mark ∨ ∃ part ∈ parts, c ∈ part := by
  induction parts with
  | nil => cases h
  | cons part parts ih =>
      by_cases hparts : parts = []
      · rw [hparts, List.intercalate_singleton] at h
        exact .inr ⟨part, List.mem_cons_self, h⟩
      · rw [List.intercalate_cons_of_ne_nil hparts, List.mem_append, List.mem_append,
          List.mem_singleton] at h
        rcases h with (hpart | hmark) | hrest
        · exact .inr ⟨part, List.mem_cons_self, hpart⟩
        · exact .inl hmark
        · exact (ih hrest).imp_right fun ⟨other, hother, hc⟩ =>
            ⟨other, List.mem_cons_of_mem _ hother, hc⟩

/-! ## Segments -/

/-- The segments of a path, encoded. -/
def segments (s : List Char) : List String :=
  (s.splitOnP isSlash).map fun segment => String.ofList (encodeChars inPath segment)

/-- A slash separates the segments before it from those after it. -/
theorem segments_append (before after : List Char) :
    segments (before ++ '/' :: after) = segments before ++ segments after := by
  rw [segments, List.splitOnP_append_cons _ _ rfl, List.map_append]
  rfl

/-- Even an empty path has a segment, the empty one. -/
theorem segments_ne_nil (s : List Char) : segments s ≠ [] := by
  simp [segments]

/-- What is taken so far after one more segment that is not the last. -/
def advance (taken : List String) (segment : String) : List String :=
  if isAbove segment then above taken else if isHere segment then taken else segment :: taken

/-- A segment that does not stand for another place. -/
def Stays (segment : String) : Prop :=
  isHere segment = false ∧ isAbove segment = false

instance (segment : String) : Decidable (Stays segment) :=
  inferInstanceAs (Decidable (isHere segment = false ∧ isAbove segment = false))

/-- Segments that are not the last ones only change what is taken so far. -/
theorem follow_append {rest : List String} (hrest : rest ≠ []) (front : List String) (t : Trail) :
    t.follow false (front ++ rest) =
      Trail.follow false { t with taken := front.foldl advance t.taken } rest := by
  induction front generalizing t with
  | nil => rfl
  | cons segment front ih =>
      have hmore : (front ++ rest).isEmpty = false := by simp [hrest]
      rw [List.cons_append, Trail.follow, List.foldl_cons, advance]
      by_cases habove : isAbove segment = true
      · simp only [habove, Bool.true_or, if_true, hmore, Bool.false_eq_true, if_false]
        exact ih _
      · by_cases hhere : isHere segment = true
        · simp only [habove, hhere, Bool.or_true, if_true, hmore, Bool.false_eq_true, if_false]
          exact ih _
        · simp only [habove, hhere, Bool.or_false, Bool.false_eq_true, if_false]
          exact ih _

/-- Segments that stand for no other place are taken one after the other. -/
theorem follow_of_stays {all : List String} (h : ∀ segment ∈ all, Stays segment) (t : Trail) :
    t.follow false all = { t with taken := all.reverse ++ t.taken } := by
  induction all generalizing t with
  | nil => rfl
  | cons segment all ih =>
      obtain ⟨hhere, habove⟩ := h segment List.mem_cons_self
      rw [Trail.follow, hhere, habove, Bool.or_false, if_neg (by decide),
        ih fun other hother => h other (List.mem_cons_of_mem _ hother), List.reverse_cons,
        List.append_assoc]
      rfl

/-! ## Straight paths -/

/-- A path that is taken as it is written. -/
structure Straight (s : List Char) : Prop where
  plain : ∀ c ∈ s, inPath c = false ∧ c ≠ '\\'
  stays : ∀ segment ∈ s.splitOn '/', Stays (String.ofList segment)

instance (s : List Char) : Decidable (Straight s) :=
  decidable_of_iff (s.all (fun c => inPath c = false ∧ c ≠ '\\') = true ∧
      ∀ segment ∈ s.splitOn '/', Stays (String.ofList segment))
    ⟨fun h => ⟨all_decide_iff.1 h.1, h.2⟩, fun h => ⟨all_decide_iff.2 h.plain, h.stays⟩⟩

/-- No character that must be encoded is in a straight path. -/
theorem Straight.not_mem (h : Straight s) (hc : inPath c = true) : c ∉ s := fun hmem => by
  rw [(h.plain c hmem).1] at hc
  cases hc

/-- A path is straight if and only if it is so on both sides of a slash. -/
theorem straight_append_iff :
    Straight (before ++ '/' :: after) ↔ Straight before ∧ Straight after := by
  have hsplit : (before ++ '/' :: after).splitOn '/' = before.splitOn '/' ++ after.splitOn '/' :=
    List.splitOn_append_cons_self ..
  constructor
  · rintro ⟨hplain, hstays⟩
    rw [hsplit] at hstays
    exact ⟨⟨fun c hc => hplain c (List.mem_append_left _ hc),
        fun segment hsegment => hstays segment (List.mem_append_left _ hsegment)⟩,
      ⟨fun c hc => hplain c (List.mem_append_right _ (List.mem_cons_of_mem _ hc)),
        fun segment hsegment => hstays segment (List.mem_append_right _ hsegment)⟩⟩
  · rintro ⟨hbefore, hafter⟩
    refine ⟨fun c hc => ?_, fun segment hsegment => ?_⟩
    · rcases List.mem_append.1 hc with hc | hc
      · exact hbefore.plain c hc
      · rcases List.mem_cons.1 hc with rfl | hc
        · decide
        · exact hafter.plain c hc
    · rw [hsplit] at hsegment
      exact (List.mem_append.1 hsegment).elim (hbefore.stays segment) (hafter.stays segment)

/-- The segments of a straight path are what stands between its slashes, as it is written. -/
theorem Straight.segments_eq (h : Straight s) : segments s = (s.splitOn '/').map String.ofList := by
  have hseparators : s.splitOnP isSlash = s.splitOn '/' :=
    splitOnP_congr fun c hc => by simp [isSlash, (h.plain c hc).2]
  rw [segments, hseparators]
  refine List.map_congr_left fun segment hsegment => ?_
  rw [encodeChars_eq_self fun c hc => (h.plain c (mem_of_mem_splitOnP hsegment hc).1).1]

/-- A trail is written as its segments in the order they were taken, each after a slash. -/
theorem Trail.toList_text (t : Trail) :
    t.text.toList = '/' :: ['/'].intercalate (t.taken.reverse.map String.toList) := by
  rw [Trail.text, String.toList_append, String.toList_intercalate]
  rfl

/-- What is taken from the path of an address before the slash at which more is added. -/
def leading : List Char → List String
  | [] => []
  | _ :: base => (segments base).foldl advance []

/-- A path may follow here. -/
def BeforePath (base : List Char) : Prop :=
  base = [] ∨ ∃ c rest, base = c :: rest ∧ isSlash c = true

/-- The path of an address to which one is added: the segments that are added are taken after those
that are there. -/
theorem hostPath_append (hbase : BeforePath base) (s : List Char) :
    hostPath true (base ++ '/' :: s) =
      (Trail.follow false ⟨leading base, false⟩ (segments s)).text := by
  rcases hbase with rfl | ⟨c, rest, rfl, hc⟩
  · rfl
  · have hslash : c = '/' ∨ (true = true ∧ c = '\\') := by
      simpa [isSlash] using hc
    have hresolved : hostPath true (c :: (rest ++ '/' :: s)) =
        (Trail.empty.follow false (segments (rest ++ '/' :: s))).text := by
      rw [hostPath, if_pos hslash]
      rfl
    rw [List.cons_append, hresolved, segments_append, follow_append (segments_ne_nil s)]
    rfl

/-- A straight path that is added stands at the end of the one that is found, as it was written. -/
theorem toList_hostPath_of_straight (hbase : BeforePath base) (h : Straight s) :
    (hostPath true (base ++ '/' :: s)).toList =
      '/' :: ['/'].intercalate ((leading base).reverse.map String.toList ++ s.splitOn '/') := by
  have hstays : ∀ segment ∈ segments s, Stays segment := by
    rw [h.segments_eq]
    intro segment hsegment
    obtain ⟨part, hpart, rfl⟩ := List.mem_map.1 hsegment
    exact h.stays part hpart
  rw [hostPath_append hbase, follow_of_stays hstays, Trail.toList_text, List.reverse_append,
    List.reverse_reverse, List.map_append, h.segments_eq, List.map_map]
  simp [Function.comp_def]

/-- If a straight path is found as it was added, what comes before it leads to the root. -/
theorem leading_eq_nil (hbase : BeforePath base) (h : Straight s)
    (hfound : (hostPath true (base ++ '/' :: s)).toList = '/' :: s) : leading base = [] := by
  rw [toList_hostPath_of_straight hbase h] at hfound
  have hsame := (List.cons.inj hfound).2
  -- What is left of the base stands before the path, with a slash, so that more is found.
  by_contra hne
  rw [intercalate_append (by simpa using hne) (List.splitOn_ne_nil '/' s),
    List.intercalate_splitOn] at hsame
  have hlength := congrArg List.length hsame
  simp only [List.length_append, List.length_cons] at hlength
  omega

/-- At the root of a server a straight path is found as it was added. -/
theorem hostPath_of_straight (hbase : BeforePath base) (hroot : leading base = [])
    (h : Straight s) : (hostPath true (base ++ '/' :: s)).toList = '/' :: s := by
  rw [toList_hostPath_of_straight hbase h, hroot, List.reverse_nil, List.map_nil, List.nil_append,
    List.intercalate_splitOn]

/-! ## No other path is found -/

/-- A segment of a path in its normal form. -/
structure IsNormal (segment : String) : Prop where
  plain : ∀ c ∈ segment.toList, inPath c = false ∧ c ≠ '\\' ∧ c ≠ '/'
  stays : Stays segment

/-- What is encoded holds no slash, and nothing that must be encoded. -/
theorem plain_of_mem_segments {segment : String} (h : segment ∈ segments s) :
    ∀ c ∈ segment.toList, inPath c = false ∧ c ≠ '\\' ∧ c ≠ '/' := by
  have hdigits : ∀ c ∈ upperDigits, inPath c = false ∧ c ≠ '\\' ∧ c ≠ '/' :=
    all_decide_iff.1 (by decide)
  intro c hc
  obtain ⟨part, hpart, rfl⟩ := List.mem_map.1 h
  rw [String.toList_ofList] at hc
  rcases mem_encodeChars hc with ⟨hmem, hplain⟩ | rfl | hdigit
  · have hslash := (mem_of_mem_splitOnP hpart hmem).2
    simp only [isSlash, Bool.or_eq_false_iff, beq_eq_false_iff_ne] at hslash
    exact ⟨hplain, hslash.2, hslash.1⟩
  · decide
  · exact hdigits c hdigit

/-- Going up takes nothing new. -/
theorem above_subset (taken : List String) : above taken ⊆ taken := by
  cases taken with
  | nil => exact List.Subset.refl _
  | cons last taken =>
      rw [above]
      split
      · exact List.Subset.refl _
      · exact List.subset_cons_self last taken

/-- The segment after a slash at the end of a path. -/
theorem isNormal_empty : IsNormal "" :=
  ⟨nofun, by decide⟩

/-- All segments that are taken are in normal form, if those are that are there already: one that
stands for another place is never taken. -/
theorem follow_isNormal {all : List String}
    (hall : ∀ segment ∈ all, ∀ c ∈ segment.toList, inPath c = false ∧ c ≠ '\\' ∧ c ≠ '/')
    {t : Trail} (ht : ∀ segment ∈ t.taken, IsNormal segment) :
    ∀ segment ∈ (t.follow false all).taken, IsNormal segment := by
  induction all generalizing t with
  | nil => exact ht
  | cons segment all ih =>
      have hrest := fun other hother => hall other (List.mem_cons_of_mem segment hother)
      rw [Trail.follow]
      split
      · refine ih hrest fun other hother => ?_
        have hless : (if isAbove segment = true then above t.taken else t.taken) ⊆ t.taken := by
          split
          · exact above_subset t.taken
          · exact List.Subset.refl _
        simp only at hother
        split at hother
        · rcases List.mem_cons.1 hother with rfl | hother
          · exact isNormal_empty
          · exact ht other (hless hother)
        · exact ht other (hless hother)
      · rename_i hstays
        rw [Bool.not_eq_true, Bool.or_eq_false_iff] at hstays
        refine ih hrest fun other hother => ?_
        rcases List.mem_cons.1 hother with rfl | hother
        · exact ⟨hall other List.mem_cons_self, hstays.2, hstays.1⟩
        · exact ht other hother

/-- Segments in normal form make a straight path. -/
theorem straight_intercalate {taken : List String} (h : ∀ segment ∈ taken, IsNormal segment) :
    Straight (['/'].intercalate (taken.map String.toList)) := by
  refine ⟨fun c hc => ?_, fun part hpart => ?_⟩
  · rcases mem_intercalate hc with rfl | ⟨part, hpart, hc⟩
    · decide
    · obtain ⟨segment, hsegment, rfl⟩ := List.mem_map.1 hpart
      have hplain := (h segment hsegment).plain c hc
      exact ⟨hplain.1, hplain.2.1⟩
  · by_cases hnone : taken = []
    · subst hnone
      obtain rfl : part = [] := by simpa using hpart
      exact isNormal_empty.stays
    · rw [List.splitOn_intercalate '/' ?_ (by simpa using hnone)] at hpart
      · obtain ⟨segment, hsegment, rfl⟩ := List.mem_map.1 hpart
        rw [String.ofList_toList]
        exact (h segment hsegment).stays
      · intro part hpart hslash
        obtain ⟨segment, hsegment, rfl⟩ := List.mem_map.1 hpart
        exact ((h segment hsegment).plain '/' hslash).2.2 rfl

/-- Every path that is found is straight. -/
theorem straight_hostPath (before : List Char) :
    ∃ s, (hostPath true before).toList = '/' :: s ∧ Straight s := by
  have hresolved (t : List Char) : ∃ s, (resolved true t).toList = '/' :: s ∧ Straight s := by
    have hnormal : ∀ segment ∈ (Trail.empty.follow false (segments t)).taken, IsNormal segment :=
      follow_isNormal (fun _ => plain_of_mem_segments) nofun
    exact ⟨_, Trail.toList_text _, straight_intercalate fun segment hsegment =>
      hnormal segment (List.mem_reverse.1 hsegment)⟩
  cases before with
  | nil => exact ⟨[], rfl, @straight_intercalate [] nofun⟩
  | cons c rest =>
      rw [hostPath]
      split
      · exact hresolved rest
      · exact hresolved (c :: rest)

/-! ## Addresses with a path and a query -/

/-- A path that is added to an address starts at the root of a server: if the address is given the
path `/apps`, that is its path, and there is no query and no fragment. -/
def LeadsToRoot (address : String) : Prop :=
  ∃ url, parse (address ++ "/apps") = .ok url ∧ url.path = "/apps" ∧ url.query = none ∧
    url.fragment = none

/-- What is known of an address, without its scheme, that leads to the root of a server. -/
structure Rooted (s : List Char) : Prop where
  server : NamesServer s
  before : BeforePath (afterServer s)
  root : leading (afterServer s) = []
  hash_not_mem : '#' ∉ afterServer s
  mark_not_mem : '?' ∉ afterServer s

instance (address : String) : Decidable (LeadsToRoot address) :=
  decidable_of_iff ((parse (address ++ "/apps")).toOption.map
      (fun url => (url.path, url.query, url.fragment)) = some ("/apps", none, none)) (by
    cases hparse : parse (address ++ "/apps") with
    | error => simp [LeadsToRoot, hparse, Except.toOption]
    | ok url => simp [LeadsToRoot, hparse, Except.toOption])

/-- The path by which it is told whether an address leads to the root. -/
theorem straight_apps : Straight "apps".toList := by
  decide

/-- What follows the name of a server is a path if it is neither a query nor a fragment. -/
theorem beforePath_afterServer (hhash : '#' ∉ afterServer s) (hmark : '?' ∉ afterServer s) :
    BeforePath (afterServer s) := by
  rcases atEnd_afterAuthority true ((s.filter isKept).dropWhile isSlash) with
    hnil | ⟨c, rest, heq, hc⟩
  · exact .inl hnil
  · refine .inr ⟨c, rest, heq, ?_⟩
    have hmem : c ∈ afterServer s := by
      rw [afterServer, heq]
      exact List.mem_cons_self
    rcases endsAuthority_true_iff.1 hc with rfl | rfl | rfl | rfl
    · rfl
    · exact absurd hmem hmark
    · exact absurd hmem hhash
    · rfl

/-- What `LeadsToRoot` says of an address holds of every path that is added to it, since the path
that it tries is straight. -/
theorem LeadsToRoot.rooted {scheme : String} (hscheme : IsWeb scheme)
    (h : LeadsToRoot (String.ofList (scheme.toList ++ ':' :: s))) : Rooted s := by
  obtain ⟨url, hparse, hpath, hquery, hfragment⟩ := h
  have hlast : 0x20 < 's'.toNat := by decide
  have haddress : String.ofList (scheme.toList ++ ':' :: s) ++ "/apps" =
      String.ofList (scheme.toList ++ ':' :: (s ++ '/' :: ("app".toList ++ ['s']))) := by
    rw [← String.toList_inj]
    simp
  rw [haddress] at hparse
  have hserver : NamesServer s := by
    by_contra hnone
    have hname : ∀ c ∈ "app".toList ++ ['s'], endsAuthority true c = false :=
      all_decide_iff.1 (by decide)
    have hempty : url.path = "/" :=
      path_eq_of_not_namesServer hscheme hnone hlast hname url hparse
    rw [hpath] at hempty
    exact absurd hempty (by decide)
  obtain ⟨hreadPath, hreadQuery, hreadFragment⟩ :=
    readAfter_append hscheme hserver hlast _ url hparse
  have hkept : ("app".toList ++ ['s']).filter isKept = "apps".toList := rfl
  rw [hkept] at hreadPath hreadQuery hreadFragment
  obtain ⟨hhash, hmark⟩ := not_mem_of_tail (hreadQuery.symm.trans hquery)
    (hreadFragment.symm.trans hfragment)
  rw [tail, cut_of_not_mem hhash] at hreadPath
  simp only [cut_of_not_mem hmark] at hreadPath
  have hhash : '#' ∉ afterServer s := fun hmem => hhash (List.mem_append_left _ hmem)
  have hmark : '?' ∉ afterServer s := fun hmem => hmark (List.mem_append_left _ hmem)
  have hbefore := beforePath_afterServer hhash hmark
  refine ⟨hserver, hbefore, leading_eq_nil hbefore straight_apps ?_, hhash, hmark⟩
  rw [← hreadPath, hpath]
  rfl

/-- A straight path has no characters that are dropped before an address is read. -/
theorem Straight.filter_isKept (h : Straight s) : s.filter isKept = s := by
  refine List.filter_eq_self.2 fun c hc => ?_
  have hplain := (h.plain c hc).1
  simp only [isKept, Bool.and_eq_true, decide_eq_true_eq]
  refine ⟨⟨?_, ?_⟩, ?_⟩ <;> rintro rfl <;> cases hplain

/-- When a path and a query are added to an address that leads to the root of a server, the path is
found as it was written if and only if it is straight; then what is encoded for the query is what was
written up to the first number sign. No path holds a question mark. -/
theorem parse_path_query {scheme : String} (hscheme : IsWeb scheme)
    (hroot : LeadsToRoot (String.ofList (scheme.toList ++ ':' :: s))) {last : Char}
    (hlast : 0x20 < last.toNat) (path query : List Char) :
    Yields (fun url => '?' ∉ url.path.toList ∧ (url.path.toList = '/' :: path ↔ Straight path) ∧
        (Straight path → url.query = some (String.ofList (encodeChars (inQuery true)
          (((query ++ [last]).filter isKept).takeWhile (· ≠ '#'))))))
      (parse (String.ofList
        (scheme.toList ++ ':' :: (s ++ '/' :: (path ++ '?' :: (query ++ [last])))))) := by
  intro url hparse
  have hrooted := hroot.rooted hscheme
  have hassoc : path ++ '?' :: (query ++ [last]) = (path ++ '?' :: query) ++ [last] := by simp
  rw [hassoc] at hparse
  obtain ⟨hreadPath, hreadQuery, -⟩ := readAfter_append hscheme hrooted.server hlast _ url hparse
  have hsplit (h : Straight path) : afterServer s ++ '/' :: ((path ++ '?' :: query) ++ [last]).filter
      isKept = (afterServer s ++ '/' :: path) ++ '?' :: (query ++ [last]).filter isKept := by
    have hmark : isKept '?' = true := rfl
    rw [← hassoc, List.filter_append, h.filter_isKept, List.filter_cons_of_pos hmark,
      List.append_assoc]
    rfl
  have hnone {mark : Char} (hbase : mark ∉ afterServer s) (hmark : inPath mark = true)
      (h : Straight path) : mark ∉ afterServer s ++ '/' :: path := by
    intro hmem
    rcases List.mem_append.1 hmem with hmem | hmem
    · exact hbase hmem
    · rcases List.mem_cons.1 hmem with rfl | hmem
      · cases hmark
      · exact h.not_mem hmark hmem
  -- A straight path holds no mark, so the first question mark is the one that was written after it.
  have htail (h : Straight path) :=
    tail_query true (hnone hrooted.hash_not_mem rfl h) (hnone hrooted.mark_not_mem rfl h)
      ((query ++ [last]).filter isKept)
  -- Whatever was written, the path that is found is straight; so it is no other if it is the same.
  obtain ⟨found, hfound, hstraight⟩ : ∃ found, url.path.toList = '/' :: found ∧ Straight found :=
    hreadPath ▸ straight_hostPath _
  refine ⟨fun hmem => ?_, ⟨fun hsame => ?_, fun h => ?_⟩, fun h => ?_⟩
  · rw [hfound] at hmem
    rcases List.mem_cons.1 hmem with heq | hmem
    · cases heq
    · exact hstraight.not_mem rfl hmem
  · rw [hfound] at hsame
    exact (List.cons.inj hsame).2 ▸ hstraight
  · rw [hreadPath, hsplit h, (htail h).1]
    exact hostPath_of_straight hrooted.before hrooted.root h
  · rw [hreadQuery, hsplit h, (htail h).2]

end JobLog.Web.Url
