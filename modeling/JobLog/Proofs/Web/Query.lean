import JobLog.Proofs.Web.Path
import Mathlib.Data.List.Flatten

/-!
# The parameters of a query

Whoever receives a query splits it at its ampersands and each entry at its first equals sign, and
decodes both sides. Parameters whose names are ordinary are received as they were written if their
values can pass (`parameters_sent`), and the value of the first one is received only if it can
(`passes_of_received`).
-/

namespace JobLog.Web

open String (utf8EncodeChar)
open Url (isKept)

/-- The bytes of some characters. -/
def bytesOf (s : List Char) : List UInt8 :=
  s.flatMap utf8EncodeChar

theorem bytesOf_toList (s : String) : bytesOf s.toList = Text.encode s :=
  (Text.encode_eq s).symm

theorem bytesOf_append (s t : List Char) : bytesOf (s ++ t) = bytesOf s ++ bytesOf t :=
  List.flatMap_append

theorem bytesOf_cons (c : Char) (s : List Char) :
    bytesOf (c :: s) = utf8EncodeChar c ++ bytesOf s :=
  List.flatMap_cons

theorem bytesOf_inj {s t : List Char} (h : bytesOf s = bytesOf t) : s = t := by
  induction s generalizing t with
  | nil =>
      cases t with
      | nil => rfl
      | cons d t => simp [bytesOf] at h
  | cons c s ih =>
      cases t with
      | nil => simp [bytesOf] at h
      | cons d t =>
          rw [bytesOf_cons, bytesOf_cons] at h
          obtain ⟨rfl, hrest⟩ := Text.utf8EncodeChar_append_inj h
          rw [ih hrest]

theorem encode_inj {s t : String} : Text.encode s = Text.encode t ↔ s = t := by
  refine ⟨fun h => ?_, congrArg _⟩
  rw [← bytesOf_toList, ← bytesOf_toList] at h
  exact String.toList_inj.1 (bytesOf_inj h)

/-- Less text has fewer bytes. -/
theorem eq_of_sublist_of_length_le {s t : List Char} (h : s.Sublist t)
    (hlength : (bytesOf t).length ≤ (bytesOf s).length) : s = t :=
  bytesOf_inj ((h.flatMap utf8EncodeChar).eq_of_length_le hlength)

/-! ## Receiving -/

/-- The name and the value of an entry of a query, decoded. -/
def parameter (entry : List Char) : List UInt8 × List UInt8 :=
  let name := entry.takeWhile (· ≠ '=')
  (decodeBytes name, decodeBytes (entry.drop (name.length + 1)))

/-- The parameters of a query in their order. Empty entries do not count. -/
def parameters (query : List Char) : List (List UInt8 × List UInt8) :=
  ((query.splitOn '&').filter fun entry => !entry.isEmpty).map parameter

/-! ## Writing -/

/-- A parameter as it is written. -/
def entry (p : String × String) : List Char :=
  p.1.toList ++ '=' :: p.2.toList

/-- A query as it is written. -/
def written (all : List (String × String)) : List Char :=
  ['&'].intercalate (all.map entry)

/-- What is sent for a query. -/
def sent (query : List Char) : List Char :=
  encodeChars (inQuery true) ((query.filter isKept).takeWhile (· ≠ '#'))

/-- A character that nothing in an address or in a query is done with. -/
def isOrdinary (c : Char) : Bool :=
  c.isAlphanum || c ∈ ['-', '.', '_']

/-- A text of ordinary characters. -/
def Ordinary (s : List Char) : Prop :=
  ∀ c ∈ s, isOrdinary c = true

instance (s : List Char) : Decidable (Ordinary s) :=
  decidable_of_iff (s.all isOrdinary = true) List.all_eq_true

/-- A text that comes through a query as it is: it holds no mark of the query, nothing that is
dropped from an address, and nothing that would be decoded. -/
structure Passes (s : List Char) : Prop where
  marks : ∀ c ∈ s, c ∉ ['&', '#', '\t', '\n', '\r']
  escapes : hasEscape s = false

instance (s : List Char) : Decidable (Passes s) :=
  decidable_of_iff (s.all (fun c => c ∉ ['&', '#', '\t', '\n', '\r']) = true ∧ hasEscape s = false)
    ⟨fun h => ⟨all_decide_iff.1 h.1, h.2⟩, fun h => ⟨all_decide_iff.2 h.marks, h.escapes⟩⟩

theorem ne_of_isOrdinary {c d : Char} (hc : isOrdinary c = true) (hd : isOrdinary d = false) :
    c ≠ d := by
  rintro rfl
  rw [hc] at hd
  cases hd

/-- Ordinary characters are not dropped at the ends of an address. -/
theorem visible_of_isOrdinary {c : Char} (h : isOrdinary c = true) : 0x20 < c.toNat := by
  by_contra hlow
  have hnone : ∀ n ∈ List.range 33, isOrdinary (Char.ofNat n) = false := by decide
  have hn : c.toNat ∈ List.range 33 := List.mem_range.2 (by omega)
  have hordinary := hnone c.toNat hn
  rw [Char.ofNat_toNat, h] at hordinary
  cases hordinary

theorem hasEscape_of_not_mem {s : List Char} (h : '%' ∉ s) : hasEscape s = false := by
  induction s with
  | nil => rfl
  | cons c s ih =>
      have hc : c ≠ '%' := fun heq => h (heq ▸ List.mem_cons_self)
      rw [hasEscape, ih fun hs => h (List.mem_cons_of_mem _ hs), decide_eq_false hc]
      rfl

theorem Ordinary.not_mem {s : List Char} (h : Ordinary s) {c : Char} (hc : isOrdinary c = false) :
    c ∉ s := fun hs =>
  ne_of_isOrdinary (h c hs) hc rfl

theorem Ordinary.passes {s : List Char} (h : Ordinary s) : Passes s where
  marks c hc hmark := by
    have hnone : ∀ mark ∈ ['&', '#', '\t', '\n', '\r'], isOrdinary mark = false :=
      all_decide_iff.1 (by decide)
    exact h.not_mem (hnone c hmark) hc
  escapes := hasEscape_of_not_mem (h.not_mem (by decide))

theorem written_cons (p : String × String) {all : List (String × String)} (hall : all ≠ []) :
    written (p :: all) = entry p ++ '&' :: written all := by
  rw [written, List.map_cons, List.intercalate_cons_of_ne_nil (by simpa using hall),
    List.append_assoc]
  rfl

theorem written_concat {all : List (String × String)} (hall : all ≠ []) (p : String × String) :
    written (all ++ [p]) = written all ++ '&' :: entry p := by
  rw [written, List.map_append, Url.intercalate_append (by simpa using hall) (by simp),
    List.map_singleton, List.intercalate_singleton]
  rfl

/-- The bytes of a query, parameter by parameter. -/
theorem bytesOf_written (all : List (String × String)) :
    bytesOf (written all) = (Text.encode "&").intercalate
      (all.map fun p => Text.encode p.1 ++ Text.encode "=" ++ Text.encode p.2) := by
  have hentry (p : String × String) (rest : List Char) : bytesOf (entry p ++ rest) =
      Text.encode p.1 ++ Text.encode "=" ++ Text.encode p.2 ++ bytesOf rest := by
    rw [entry, bytesOf_append, bytesOf_append, bytesOf_cons, ← bytesOf_toList "=", bytesOf_toList,
      bytesOf_toList, List.append_assoc _ _ (Text.encode p.2)]
    rfl
  induction all with
  | nil => rfl
  | cons p all ih =>
      by_cases hall : all = []
      · rw [hall, written, List.map_singleton, List.map_singleton, List.intercalate_singleton,
          List.intercalate_singleton, ← List.append_nil (entry p), hentry]
        exact List.append_nil _
      · rw [written_cons p hall, hentry, bytesOf_cons, ih, List.map_cons,
          List.intercalate_cons_of_ne_nil (by simpa using hall)]
        exact (List.append_assoc _ (Text.encode "&") _).symm

/-- A query ends with a character that is not dropped, if its last value is ordinary. -/
theorem exists_last_written {all : List (String × String)} (hall : all ≠ []) {name value : String}
    (hname : Ordinary name.toList) (hvalue : Ordinary value.toList) :
    ∃ init last, written (all ++ [(name, value)]) = init ++ [last] ∧ 0x20 < last.toNat := by
  have hvisible : ∀ c ∈ entry (name, value), 0x20 < c.toNat := by
    intro c hc
    rcases List.mem_append.1 hc with hc | hc
    · exact visible_of_isOrdinary (hname c hc)
    · rcases List.mem_cons.1 hc with rfl | hc
      · decide
      · exact visible_of_isOrdinary (hvalue c hc)
  have hne : entry (name, value) ≠ [] := by simp [entry]
  refine ⟨written all ++ '&' :: (entry (name, value)).dropLast, (entry (name, value)).getLast hne,
    ?_, hvisible _ (List.getLast_mem hne)⟩
  rw [written_concat hall, List.append_assoc, List.cons_append, List.dropLast_concat_getLast]

theorem separates_query {mark : Char} (h : mark = '&' ∨ mark = '=') :
    Separates (inQuery true) mark := by
  rcases h with rfl | rfl <;> exact ⟨by decide, by decide, by decide⟩

/-- An entry is received as its name and its value are decoded. -/
theorem parameter_sent {name value : List Char} (hname : Ordinary name) :
    parameter (encodeChars (inQuery true) (name ++ '=' :: value)) =
      (bytesOf name, decodeBytes (encodeChars (inQuery true) value)) := by
  have hequals : Separates (inQuery true) '=' := separates_query (.inr rfl)
  have hnone : '=' ∉ encodeChars (inQuery true) name := fun hmem =>
    hname.not_mem (by decide) (hequals.mem_iff.1 hmem)
  rw [encodeChars_append, encodeChars_cons_of_not_chosen hequals.kept, parameter,
    List.takeWhile_append_of_pos (Url.decide_ne_of_not_mem hnone),
    List.takeWhile_cons_of_neg (by decide), List.append_nil,
    decodeBytes_encodeChars hname.passes.escapes]
  simp [bytesOf]

/-! ## Parameters that pass -/

theorem Passes.isKept {s : List Char} (h : Passes s) : ∀ c ∈ s, isKept c = true := by
  intro c hc
  have hmarks := h.marks c hc
  simp only [List.mem_cons, List.not_mem_nil, or_false, not_or] at hmarks
  simp [Url.isKept, hmarks]

theorem isKept_of_mem_entry {p : String × String} (hname : Ordinary p.1.toList)
    (hvalue : Passes p.2.toList) : ∀ c ∈ entry p, Url.isKept c = true := by
  intro c hc
  rcases List.mem_append.1 hc with hc | hc
  · exact hname.passes.isKept c hc
  · rcases List.mem_cons.1 hc with rfl | hc
    · rfl
    · exact hvalue.isKept c hc

theorem not_mem_entry {p : String × String} (hname : Ordinary p.1.toList)
    (hvalue : Passes p.2.toList) {mark : Char} (hmark : mark = '&' ∨ mark = '#') :
    mark ∉ entry p := by
  intro hc
  have hspecial : isOrdinary mark = false ∧ mark ≠ '=' ∧ mark ∈ ['&', '#', '\t', '\n', '\r'] := by
    rcases hmark with rfl | rfl <;> decide
  rcases List.mem_append.1 hc with hc | hc
  · exact hname.not_mem hspecial.1 hc
  · rcases List.mem_cons.1 hc with heq | hc
    · exact hspecial.2.1 heq
    · exact hvalue.marks mark hc hspecial.2.2

/-- A query of such parameters is only encoded. -/
theorem sent_written {all : List (String × String)} (hnames : ∀ p ∈ all, Ordinary p.1.toList)
    (hvalues : ∀ p ∈ all, Passes p.2.toList) :
    sent (written all) = encodeChars (inQuery true) (written all) := by
  have hmem {c : Char} (hc : c ∈ written all) : c = '&' ∨ ∃ p ∈ all, c ∈ entry p := by
    refine (Url.mem_intercalate hc).imp_right fun ⟨part, hpart, hc⟩ => ?_
    obtain ⟨p, hp, rfl⟩ := List.mem_map.1 hpart
    exact ⟨p, hp, hc⟩
  have hkept : (written all).filter isKept = written all := by
    refine List.filter_eq_self.2 fun c hc => ?_
    rcases hmem hc with rfl | ⟨p, hp, hc⟩
    · rfl
    · exact isKept_of_mem_entry (hnames p hp) (hvalues p hp) c hc
  have hwhole : (written all).takeWhile (· ≠ '#') = written all := by
    refine List.takeWhile_eq_self_iff.2 fun c hc => decide_eq_true ?_
    rcases hmem hc with rfl | ⟨p, hp, hc⟩
    · decide
    · rintro rfl
      exact not_mem_entry (hnames p hp) (hvalues p hp) (.inr rfl) hc
  rw [sent, hkept, hwhole]

/-- Parameters whose names are ordinary and whose values pass are received as they are written. -/
theorem parameters_sent {all : List (String × String)} (hall : all ≠ [])
    (hnames : ∀ p ∈ all, Ordinary p.1.toList) (hvalues : ∀ p ∈ all, Passes p.2.toList) :
    parameters (sent (written all)) =
      all.map fun p => (Text.encode p.1, Text.encode p.2) := by
  have hsplit : (written all).splitOn '&' = all.map entry := by
    refine List.splitOn_intercalate '&' (fun part hpart => ?_) (by simpa using hall)
    obtain ⟨p, hp, rfl⟩ := List.mem_map.1 hpart
    exact not_mem_entry (hnames p hp) (hvalues p hp) (.inl rfl)
  have hnonempty : ∀ part ∈ (all.map entry).map (encodeChars (inQuery true)),
      (!part.isEmpty) = true := by
    intro part hpart
    obtain ⟨original, horiginal, rfl⟩ := List.mem_map.1 hpart
    obtain ⟨p, -, rfl⟩ := List.mem_map.1 horiginal
    have hequals : '=' ∈ encodeChars (inQuery true) (entry p) :=
      (separates_query (.inr rfl)).mem_iff.2 (List.mem_append_right _ List.mem_cons_self)
    simpa using List.ne_nil_of_mem hequals
  rw [parameters, sent_written hnames hvalues, splitOn_encodeChars (separates_query (.inl rfl)),
    hsplit, List.filter_eq_self.2 hnonempty, List.map_map, List.map_map]
  refine List.map_congr_left fun p hp => ?_
  rw [Function.comp_apply, Function.comp_apply, entry, parameter_sent (hnames p hp),
    decodeBytes_encodeChars (hvalues p hp).escapes]
  exact Prod.ext (bytesOf_toList p.1) (bytesOf_toList p.2)

/-! ## Parameters that do not pass -/

theorem head?_splitOn (mark : Char) (s : List Char) :
    (s.splitOn mark).head? = some (s.takeWhile (· ≠ mark)) := by
  induction s with
  | nil => rfl
  | cons c s ih =>
      rw [List.splitOn_cons_eq_if_modifyHead]
      by_cases hc : c = mark
      · simp [hc]
      · cases hparts : s.splitOn mark with
        | nil => exact absurd hparts (List.splitOn_ne_nil mark s)
        | cons first parts =>
            rw [hparts, List.head?_cons, Option.some.injEq] at ih
            simp [hc, ih]

/-- A run of characters ends at the first one that is not of the kind. -/
theorem takeWhile_append_cons {p : Char → Bool} {mark : Char} (hmark : p mark = false)
    (s rest : List Char) : (s ++ mark :: rest).takeWhile p = s.takeWhile p := by
  induction s with
  | nil => exact List.takeWhile_cons_of_neg (by simp [hmark])
  | cons c s ih =>
      by_cases hc : p c = true
      · rw [List.cons_append, List.takeWhile_cons_of_pos hc, List.takeWhile_cons_of_pos hc, ih]
      · rw [List.cons_append, List.takeWhile_cons_of_neg hc, List.takeWhile_cons_of_neg hc]

theorem not_chosen_of_hexDigit? {c : Char} (h : (Text.hexDigit? c).isSome = true) :
    inQuery true c = false := by
  have hrange : (48 ≤ c.toNat ∧ c.toNat ≤ 57) ∨ (97 ≤ c.toNat ∧ c.toNat ≤ 102) ∨
      (65 ≤ c.toNat ∧ c.toNat ≤ 70) := by
    unfold Text.hexDigit? at h
    split at h
    · exact .inl ‹_›
    · split at h
      · exact .inr (.inl ‹_›)
      · split at h
        · exact .inr (.inr ‹_›)
        · cases h
  have hcontrol : isControl c = false := by
    simp only [isControl, Bool.or_eq_false_iff, decide_eq_false_iff_not]
    omega
  have hmarks : ∀ mark ∈ [' ', '"', '#', '<', '>', '\''], c ≠ mark := by
    intro mark hmark heq
    subst heq
    simp only [List.mem_cons, List.not_mem_nil, or_false] at hmark
    rcases hmark with rfl | rfl | rfl | rfl | rfl | rfl <;> simp at hrange
  simp [inQuery, hcontrol, hmarks]

/-- A name is received with what follows it up to the first ampersand. -/
theorem head?_parameters_encoded {name : List Char} (hname : Ordinary name) (value : List Char) :
    (parameters (encodeChars (inQuery true) (name ++ '=' :: value))).head? =
      some (bytesOf name,
        decodeBytes (encodeChars (inQuery true) (value.takeWhile (· ≠ '&')))) := by
  have hfirst := head?_splitOn '&' (name ++ '=' :: value)
  have hall := Url.decide_ne_of_not_mem (hname.not_mem (c := '&') (by decide))
  rw [List.takeWhile_append_of_pos hall, List.takeWhile_cons_of_pos (by decide)] at hfirst
  rw [parameters, splitOn_encodeChars (separates_query (.inl rfl))]
  cases hparts : (name ++ '=' :: value).splitOn '&' with
  | nil => exact absurd hparts (List.splitOn_ne_nil _ _)
  | cons first parts =>
      rw [hparts, List.head?_cons, Option.some.injEq] at hfirst
      have hequals : '=' ∈ encodeChars (inQuery true) first :=
        (separates_query (.inr rfl)).mem_iff.2 (by simp [hfirst])
      have hnonempty : (!(encodeChars (inQuery true) first).isEmpty) = true := by
        simpa using List.ne_nil_of_mem hequals
      rw [List.map_cons, List.filter_cons, if_pos hnonempty, List.map_cons, List.head?_cons, hfirst,
        parameter_sent hname]

/-- What is received of the first value: it ends at the first mark, and some characters of it are
dropped. -/
theorem head?_parameters {name value : String} {more : List (String × String)}
    (hname : Ordinary name.toList) :
    (parameters (sent (written ((name, value) :: more)))).head? =
      some (Text.encode name, decodeBytes (encodeChars (inQuery true)
        ((value.toList.filter isKept).takeWhile fun c => c ≠ '&' && c ≠ '#'))) := by
  obtain ⟨rest, hrest, hwritten⟩ : ∃ rest, (rest = [] ∨ ∃ others, rest = '&' :: others) ∧
      written ((name, value) :: more) = name.toList ++ '=' :: (value.toList ++ rest) := by
    cases more with
    | nil => exact ⟨[], .inl rfl, by simp [written, entry]⟩
    | cons next more =>
        refine ⟨'&' :: written (next :: more), .inr ⟨_, rfl⟩, ?_⟩
        rw [written_cons _ (List.cons_ne_nil next more), entry, List.append_assoc]
        rfl
  have hkept : (name.toList ++ '=' :: (value.toList ++ rest)).filter isKept =
      name.toList ++ '=' :: (value.toList.filter isKept ++ rest.filter isKept) := by
    rw [List.filter_append, List.filter_eq_self.2 hname.passes.isKept,
      List.filter_cons_of_pos (by decide), List.filter_append]
  have hall := Url.decide_ne_of_not_mem (hname.not_mem (c := '#') (by decide))
  have hend : ((value.toList.filter isKept ++ rest.filter isKept).takeWhile (· ≠ '#')).takeWhile
      (· ≠ '&') = (value.toList.filter isKept).takeWhile fun c => c ≠ '&' && c ≠ '#' := by
    simp only [List.takeWhile_takeWhile, decide_eq_true_eq, Bool.decide_and]
    rcases hrest with rfl | ⟨others, rfl⟩
    · rw [List.filter_nil, List.append_nil]
    · rw [List.filter_cons_of_pos (by decide), takeWhile_append_cons (by decide)]
  rw [hwritten, sent, hkept, List.takeWhile_append_of_pos hall,
    List.takeWhile_cons_of_pos (by decide), head?_parameters_encoded hname, hend, bytesOf_toList]

/-- The first parameter is received as it is written only if its value passes. -/
theorem passes_of_received {name value : String} {more : List (String × String)}
    (hname : Ordinary name.toList)
    (h : (parameters (sent (written ((name, value) :: more)))).head? =
      some (Text.encode name, Text.encode value)) : Passes value.toList := by
  rw [head?_parameters hname] at h
  have hreceived := (Prod.mk.inj (Option.some.inj h)).2
  generalize hleft : ((value.toList.filter isKept).takeWhile fun c => c ≠ '&' && c ≠ '#') = left
    at hreceived
  have hbound := length_decodeBytes_encodeChars (fun c => not_chosen_of_hexDigit? (c := c))
    (by decide) left
  rw [hreceived, ← bytesOf_toList] at hbound
  -- `left` is decoded to as many bytes as the value has, but to no more than it has itself. So it is
  -- all of the value, and it has lost none to an escape.
  have hsublist : left.Sublist value.toList :=
    hleft ▸ (List.takeWhile_sublist _).trans List.filter_sublist
  have hsame : left = value.toList :=
    eq_of_sublist_of_length_le hsublist (Nat.le_of_add_right_le hbound)
  subst hsame
  refine ⟨fun c hc => ?_, ?_⟩
  · rw [← hleft] at hc
    have hend := List.mem_takeWhile_imp hc
    have hkept := (List.mem_filter.1 ((List.takeWhile_sublist _).subset hc)).2
    simp only [isKept, Bool.and_eq_true, decide_eq_true_eq] at hend hkept
    simp [hend, hkept]
  · have hnone : (hasEscape value.toList).toNat = 0 := by
      rw [bytesOf] at hbound
      omega
    exact Bool.toNat_eq_zero.1 hnone

end JobLog.Web
