import JobLog.Proofs.Config.Acceptance
import JobLog.Proofs.Text.Trimming
import Mathlib.Data.Nat.Digits.Defs

/-!
# Variables

What a variable stands for, said without the functions that read it. A variable that is not given,
because it is unset or blank, stands for its default if it has one. A given one stands for its text,
for its trimmed text, or for the number that its trimmed text is a numeral of. The functions read
just that (`required_eq_ok_iff_given`, `optionalText_eq_ok_iff`, `optionalWhole_eq_ok_iff`), and
`Fault` is what they report otherwise. Why a text is refused as a number is decided by its first
characters that settle it: `digits_reading` goes through them.
-/

namespace JobLog.Config

/-! ## Numerals -/

/-- The text without a plus sign in front. -/
def unsigned : List Char → List Char
  | '+' :: ds => ds
  | ds => ds

/-- Characters that are all decimal digits. -/
def AllDigits (ds : List Char) : Prop :=
  ∀ c ∈ ds, c.isDigit = true

/-- The number that digits stand for, of which the first counts most. -/
def decimal (ds : List Char) : Nat :=
  Nat.ofDigits 10 (ds.reverse.map fun c => c.toNat - '0'.toNat)

/-- A text that is a plus sign, if one likes, and the digits of a number. -/
structure Numeral (s : List Char) (n : Nat) : Prop where
  nonempty : unsigned s ≠ []
  digits : AllDigits (unsigned s)
  value : decimal (unsigned s) = n

/-- Why a text that is not empty is no numeral of a number up to `max`: some character is no digit,
unless the digits in front of it are too large a number already. -/
inductive Unreadable (max : Nat) (s : List Char) : WholeError → Prop
  | tooLarge (ds : List Char) (hinitial : ds <+: unsigned s) (hdigits : AllDigits ds)
      (hlarge : max < decimal ds) : Unreadable max s .tooLarge
  | notDigit (hnumeral : ∀ n, ¬ Numeral s n)
      (hsmall : ∀ ds, ds <+: unsigned s → AllDigits ds → decimal ds ≤ max) :
      Unreadable max s .notDigit

variable {max n m : Nat} {s t ds cs : List Char} {c : Char}

theorem decimal_concat : decimal (ds ++ [c]) = decimal ds * 10 + (c.toNat - '0'.toNat) := by
  rw [decimal, List.reverse_append, List.reverse_singleton, List.singleton_append, List.map_cons,
    Nat.ofDigits_cons, ← decimal, Nat.add_comm, Nat.mul_comm]

theorem decimal_mono (h : ds <+: cs) : decimal ds ≤ decimal cs := by
  obtain ⟨rest, rfl⟩ := h
  rw [decimal, decimal, List.reverse_append, List.map_append, Nat.ofDigits_append]
  calc
    _ ≤ 10 ^ (rest.reverse.map fun c => c.toNat - '0'.toNat).length *
          Nat.ofDigits 10 (ds.reverse.map fun c => c.toNat - '0'.toNat) :=
        Nat.le_mul_of_pos_left _ (by positivity)
    _ ≤ _ := Nat.le_add_left _ _

theorem allDigits_concat : AllDigits (ds ++ [c]) ↔ AllDigits ds ∧ c.isDigit = true := by
  simp only [AllDigits, List.forall_mem_append, List.forall_mem_singleton]

theorem AllDigits.initial (h : AllDigits cs) (hinitial : ds <+: cs) : AllDigits ds :=
  fun c hc => h c (hinitial.subset hc)

theorem digit?_eq_ite : digit? c = if c.isDigit = true then some (c.toNat - '0'.toNat) else none := by
  unfold digit?
  simp only [Char.isDigit, Char.le_def, ge_iff_le, Bool.and_eq_true, decide_eq_true_eq]
  rfl

theorem Numeral.unique (h : Numeral s n) (h' : Numeral s m) : n = m :=
  h.value.symm.trans h'.value

/-- A numeral that is refused stands for a number that is too large. -/
theorem Unreadable.lt {reason : WholeError} (h : Unreadable max s reason) (hn : Numeral s n) :
    max < n := by
  cases h with
  | tooLarge ds hinitial _ hlarge =>
      rw [← hn.value]
      exact hlarge.trans_le (decimal_mono hinitial)
  | notDigit hnumeral => exact absurd hn (hnumeral n)

theorem Unreadable.unique {reason other : WholeError} (h : Unreadable max s reason)
    (h' : Unreadable max s other) : reason = other := by
  cases h with
  | tooLarge ds hinitial hdigits hlarge =>
      cases h' with
      | tooLarge => rfl
      | notDigit _ hsmall => exact absurd (hsmall ds hinitial hdigits) (Nat.not_le_of_lt hlarge)
  | notDigit _ hsmall =>
      cases h' with
      | tooLarge ds hinitial hdigits hlarge =>
          exact absurd (hsmall ds hinitial hdigits) (Nat.not_le_of_lt hlarge)
      | notDigit => rfl

/-- What reading a text that is not empty comes to. -/
inductive Reading (max : Nat) (s : List Char) : Except WholeError Nat → Prop
  | number (n : Nat) (hnumeral : Numeral s n) (hsmall : n ≤ max) : Reading max s (.ok n)
  | unreadable (reason : WholeError) (h : Unreadable max s reason) : Reading max s (.error reason)

/-- Once digits `ds` are read that make no number above `max`, the others decide. -/
theorem digits_reading (hs : unsigned s = ds ++ cs) (hnonempty : unsigned s ≠ [])
    (hdigits : AllDigits ds) (hsmall : decimal ds ≤ max) :
    Reading max s (digits max (decimal ds) cs) := by
  induction cs generalizing ds with
  | nil =>
      rw [List.append_nil] at hs
      rw [← hs] at hdigits hsmall ⊢
      exact .number _ ⟨hnonempty, hdigits, rfl⟩ hsmall
  | cons c cs ih =>
      have hsplit : unsigned s = (ds ++ [c]) ++ cs := by
        rw [hs, List.append_assoc, List.singleton_append]
      have hinitial : ds ++ [c] <+: unsigned s := by
        rw [hsplit]
        exact List.prefix_append _ _
      rw [digits, digit?_eq_ite]
      by_cases hc : c.isDigit = true
      · have hnext : AllDigits (ds ++ [c]) := allDigits_concat.2 ⟨hdigits, hc⟩
        rw [if_pos hc]
        dsimp only
        rw [← decimal_concat]
        split
        · exact .unreadable _ (.tooLarge (ds ++ [c]) hinitial hnext ‹_›)
        · exact ih hsplit hnext (Nat.le_of_not_lt ‹_›)
      · rw [if_neg hc]
        refine .unreadable _ (.notDigit (fun n h => ?_) fun es hes hesDigits => ?_)
        · exact hc (allDigits_concat.1 (h.digits.initial hinitial)).2
        · -- A prefix of digits does not reach beyond the first character that is none.
          rcases List.prefix_or_prefix_of_prefix hes hinitial with hshort | hlong
          · rcases List.prefix_concat_iff.1 hshort with rfl | hshort
            · exact absurd (allDigits_concat.1 hesDigits).2 hc
            · exact (decimal_mono hshort).trans hsmall
          · exact absurd (allDigits_concat.1 (hesDigits.initial hlong)).2 hc

theorem whole_eq_digits (h : unsigned s ≠ []) : whole max s = digits max 0 (unsigned s) := by
  unfold whole
  split
  · exact absurd rfl h
  · exact absurd rfl h
  · rfl
  · rename_i hplus
    rw [unsigned]
    exact hplus

/-- A text without digits that is not empty is a plus sign. -/
theorem whole_eq_notDigit (hs : s ≠ []) (h : unsigned s = []) :
    whole max s = .error .notDigit := by
  unfold unsigned at h
  split at h
  · subst h
    rfl
  · exact absurd h hs

/-- A text that is not empty is read as a numeral, or refused for what is wrong first. -/
theorem whole_reading (max : Nat) (hs : s ≠ []) : Reading max s (whole max s) := by
  by_cases hunsigned : unsigned s = []
  · rw [whole_eq_notDigit hs hunsigned]
    refine .unreadable _ (.notDigit (fun n h => h.nonempty hunsigned) fun ds hinitial _ => ?_)
    rw [hunsigned, List.prefix_nil] at hinitial
    rw [hinitial]
    exact Nat.zero_le max
  · rw [whole_eq_digits hunsigned]
    have hall : unsigned s = [] ++ unsigned s := rfl
    exact digits_reading hall hunsigned nofun (Nat.zero_le max)

/-- What is no numeral of a number up to `max` has something that is wrong first. -/
theorem numeral_or_unreadable (max : Nat) (hs : s ≠ []) :
    (∃ n ≤ max, Numeral s n) ∨ ∃ reason, Unreadable max s reason := by
  have hreading := whole_reading max hs
  generalize whole max s = result at hreading
  cases hreading with
  | number n hnumeral hsmall => exact .inl ⟨n, hsmall, hnumeral⟩
  | unreadable reason hunreadable => exact .inr ⟨reason, hunreadable⟩

/-! ## Single variables -/

/-- The variable is set to a text that is not all blank. -/
structure Given (lookup : Lookup) (name value : String) : Prop where
  lookup : lookup name = some value
  visible : ∃ c ∈ value.toList, Text.isBlank c = false

/-- The variable is unset or blank. -/
def Absent (lookup : Lookup) (name : String) : Prop :=
  ∀ value, ¬ Given lookup name value

/-- What a variable with a default stands for: what its trimmed text `denotes`, if it is given. -/
inductive ValueOf {α : Type} (lookup : Lookup) (name : String) (denotes : List Char → α → Prop)
    (absent : α) : α → Prop
  | given (value : String) (text : List Char) (a : α) (hgiven : Given lookup name value)
      (htrims : Text.Trims value.toList text) (hdenotes : denotes text a) :
      ValueOf lookup name denotes absent a
  | absent (habsent : Absent lookup name) : ValueOf lookup name denotes absent absent

/-- The text that a variable with a default stands for. -/
abbrev TextOf (lookup : Lookup) (name : String) : String → String → Prop :=
  ValueOf lookup name fun text s => s.toList = text

/-- The number that a variable with a default stands for. -/
abbrev NumberOf (lookup : Lookup) (name : String) : Nat → Nat → Prop :=
  ValueOf lookup name Numeral

/-- What a variable is read as: a text that must be given, a text that has a default, or a number
that has a default and is at most `max`. -/
inductive Form where
  | credential
  | text
  | number (max : Nat)
  deriving DecidableEq, Repr

/-- What is wrong with a variable. -/
inductive Fault (lookup : Lookup) : String × Form → SettingError → Prop
  | missing (name : String) (habsent : Absent lookup name) :
      Fault lookup (name, .credential) (.missing name)
  | invalid (name value : String) (max : Nat) (text : List Char) (reason : WholeError)
      (hgiven : Given lookup name value) (htrims : Text.Trims value.toList text)
      (hunreadable : Unreadable max text reason) :
      Fault lookup (name, .number max) (.invalid name reason.message)

variable {lookup : Lookup} {name absent value other : String} {default : Nat} {e : SettingError}

theorem Given.unique (h : Given lookup name value) (h' : Given lookup name other) :
    value = other :=
  Option.some.inj (h.lookup.symm.trans h'.lookup)

theorem Given.not_absent (h : Given lookup name value) : ¬ Absent lookup name :=
  fun habsent => habsent value h

/-- Trimming leaves something of a given text. -/
theorem Given.trimmed_ne_nil (h : Given lookup name value) (htrims : Text.Trims value.toList t) :
    t ≠ [] := by
  obtain ⟨c, hc, hvisible⟩ := h.visible
  exact htrims.ne_nil hc hvisible

theorem present?_eq_some_iff : present? lookup name = some value ↔ Given lookup name value := by
  rw [present?, Option.filter_eq_some_iff, Bool.not_eq_true', Text.allBlank_eq_false_iff]
  exact ⟨fun h => ⟨h.1, h.2⟩, fun h => ⟨h.lookup, h.visible⟩⟩

theorem present?_eq_none_iff : present? lookup name = none ↔ Absent lookup name := by
  rw [Option.eq_none_iff_forall_ne_some]
  exact forall_congr' fun value => not_congr present?_eq_some_iff

theorem trims_trim : Text.Trims value.toList (Text.trim value).toList := by
  rw [Text.trim, String.toList_ofList]
  exact Text.trims_trimChars

theorem trim_ne_nil (h : Given lookup name value) : (Text.trim value).toList ≠ [] :=
  h.trimmed_ne_nil trims_trim

theorem eq_trim (h : Text.Trims value.toList t) : t = (Text.trim value).toList :=
  (Text.trims_iff.1 h).trans (Text.trims_iff.1 trims_trim).symm

namespace ValueOf

variable {α : Type} {denotes : List Char → α → Prop} {standard a b : α}

/-- What holds of the default and of all that can be given holds of the value. -/
theorem satisfies {P : α → Prop} (h : ValueOf lookup name denotes standard a) (habsent : P standard)
    (hgiven : ∀ value text a, Given lookup name value → Text.Trims value.toList text →
      denotes text a → P a) : P a := by
  cases h with
  | given value text _ hvalue htrims hdenotes => exact hgiven value text a hvalue htrims hdenotes
  | absent => exact habsent

/-- The value of a given variable is what its trimmed text denotes. -/
theorem denotes_trim (h : ValueOf lookup name denotes standard a)
    (hgiven : Given lookup name value) : denotes (Text.trim value).toList a := by
  cases h with
  | given other text _ hother htrims hdenotes =>
      cases hgiven.unique hother
      rwa [← eq_trim htrims]
  | absent habsent => exact absurd habsent hgiven.not_absent

theorem eq_standard (h : ValueOf lookup name denotes standard a) (habsent : Absent lookup name) :
    a = standard := by
  cases h with
  | given value _ _ hgiven => exact absurd habsent hgiven.not_absent
  | absent => rfl

theorem of_eq (h : ValueOf lookup name denotes standard a) (heq : b = a) :
    ValueOf lookup name denotes standard b :=
  heq ▸ h

/-- A variable stands for one value only, if a text denotes no more. -/
theorem unique (h : ValueOf lookup name denotes standard a)
    (h' : ValueOf lookup name denotes standard b)
    (hdenotes : ∀ {text a b}, denotes text a → denotes text b → a = b) : a = b := by
  by_cases hgiven : ∃ value, Given lookup name value
  · obtain ⟨value, hgiven⟩ := hgiven
    exact hdenotes (h.denotes_trim hgiven) (h'.denotes_trim hgiven)
  · have habsent : Absent lookup name := not_exists.1 hgiven
    exact (h.eq_standard habsent).trans (h'.eq_standard habsent).symm

end ValueOf

/-- A variable that stands for no zero is not given a numeral of zero. -/
theorem given_ne_zero (h : NumberOf lookup name default n) (hn : n ≠ 0) (value : String)
    (text : List Char) (m : Nat) (hgiven : Given lookup name value)
    (htrims : Text.Trims value.toList text) (hnumeral : Numeral text m) : m ≠ 0 :=
  h.unique (.given value text m hgiven htrims hnumeral) Numeral.unique ▸ hn

/-- A given number is at fault for the reason that its trimmed text is unreadable. -/
theorem Fault.unreadable (h : Fault lookup (name, .number max) e) (hgiven : Given lookup name value) :
    ∃ reason, Unreadable max (Text.trim value).toList reason ∧ e = .invalid name reason.message := by
  cases h with
  | invalid _ other _ text reason hother htrims hunreadable =>
      cases hgiven.unique hother
      exact ⟨reason, eq_trim htrims ▸ hunreadable, rfl⟩

/-! ## Reading them -/

theorem required_eq_ok_iff_given : required lookup name = .ok value ↔ Given lookup name value := by
  rw [required_eq_ok_iff, Text.allBlank_eq_false_iff]
  exact ⟨fun h => ⟨h.1, h.2⟩, fun h => ⟨h.lookup, h.visible⟩⟩

theorem required_eq_error_iff :
    required lookup name = .error e ↔ Fault lookup (name, .credential) e := by
  unfold required
  cases hpresent : present? lookup name with
  | some value =>
      have hgiven := present?_eq_some_iff.1 hpresent
      exact ⟨nofun, by rintro ⟨_, habsent⟩; exact absurd habsent hgiven.not_absent⟩
  | none =>
      exact ⟨by rintro ⟨⟩; exact .missing name (present?_eq_none_iff.1 hpresent),
        by rintro ⟨_, -⟩; rfl⟩

theorem optionalText_eq_ok_iff {text : String} :
    optionalText lookup name absent = .ok text ↔ TextOf lookup name absent text := by
  unfold optionalText
  cases hpresent : present? lookup name with
  | some value =>
      have hgiven := present?_eq_some_iff.1 hpresent
      constructor
      · rintro ⟨⟩
        exact .given value _ _ hgiven trims_trim rfl
      · intro h
        rw [String.toList_inj.1 (h.denotes_trim hgiven)]
  | none =>
      have habsent := present?_eq_none_iff.1 hpresent
      constructor
      · rintro ⟨⟩
        exact .absent habsent
      · intro h
        rw [h.eq_standard habsent]

/-- A text that has a default is never reported. -/
theorem optionalText_eq_error_iff :
    optionalText lookup name absent = .error e ↔ Fault lookup (name, .text) e := by
  unfold optionalText
  cases present? lookup name <;> exact ⟨nofun, nofun⟩

theorem optionalWhole_eq_ok_iff (hdefault : default ≤ max) :
    optionalWhole lookup name max default = .ok n ↔ NumberOf lookup name default n ∧ n ≤ max := by
  unfold optionalWhole
  cases hpresent : present? lookup name with
  | some value =>
      have hgiven := present?_eq_some_iff.1 hpresent
      have hreading := whole_reading max (trim_ne_nil hgiven)
      dsimp only
      generalize whole max (Text.trim value).toList = result at hreading
      cases hreading with
      | number n' hnumeral hsmall =>
          have hnumber : NumberOf lookup name default n' :=
            .given value _ n' hgiven trims_trim hnumeral
          constructor
          · rintro ⟨⟩
            exact ⟨hnumber, hsmall⟩
          · rintro ⟨hn, -⟩
            rw [hn.unique hnumber Numeral.unique]
      | unreadable reason hunreadable =>
          refine ⟨nofun, fun ⟨hn, hsmall⟩ => ?_⟩
          exact absurd hsmall (Nat.not_le_of_lt (hunreadable.lt (hn.denotes_trim hgiven)))
  | none =>
      have habsent := present?_eq_none_iff.1 hpresent
      constructor
      · rintro ⟨⟩
        exact ⟨.absent habsent, hdefault⟩
      · rintro ⟨hn, -⟩
        rw [hn.eq_standard habsent]

theorem optionalWhole_eq_error_iff :
    optionalWhole lookup name max default = .error e ↔ Fault lookup (name, .number max) e := by
  unfold optionalWhole
  cases hpresent : present? lookup name with
  | some value =>
      have hgiven := present?_eq_some_iff.1 hpresent
      have hreading := whole_reading max (trim_ne_nil hgiven)
      dsimp only
      generalize whole max (Text.trim value).toList = result at hreading
      cases hreading with
      | number n hnumeral hsmall =>
          refine ⟨nofun, fun hfault => ?_⟩
          obtain ⟨reason, hunreadable, -⟩ := hfault.unreadable hgiven
          exact absurd hsmall (Nat.not_le_of_lt (hunreadable.lt hnumeral))
      | unreadable reason hreason =>
          constructor
          · rintro ⟨⟩
            exact .invalid name value max _ reason hgiven trims_trim hreason
          · intro hfault
            obtain ⟨other, hother, rfl⟩ := hfault.unreadable hgiven
            rw [hreason.unique hother]
  | none =>
      refine ⟨nofun, fun hfault => ?_⟩
      cases hfault with
      | invalid _ value _ _ _ hgiven =>
          exact absurd (present?_eq_none_iff.1 hpresent) hgiven.not_absent

end JobLog.Config
