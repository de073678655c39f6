import JobLog.Proofs.Text.Utf8
import JobLog.Web.Percent

/-!
# Percent-encoding and back

Encoded text is decoded to the bytes that the text had (`decodeBytes_encodeChars`), unless the text
held an escape of its own: then fewer bytes come back (`length_decodeBytes_encodeChars`). The
separators of encoded text are those of the text (`splitOn_encodeChars`).
-/

namespace JobLog.Web

open String (utf8EncodeChar)

variable {chosen : Char → Bool} {c d : Char} {s t : List Char}

/-- Characters of a text are tested one by one. Whether all characters there are have a property can
be decided as well, but not by evaluation. -/
theorem all_decide_iff {p : Char → Prop} [DecidablePred p] :
    s.all (fun c => p c) = true ↔ ∀ c ∈ s, p c := by
  simp only [List.all_eq_true, decide_eq_true_eq]

/-! ## Encoding -/

/-- The digits that bytes are written with. -/
def upperDigits : List Char :=
  (List.range 16).map upperDigit

theorem upperDigit_mem {n : Nat} (h : n < 16) : upperDigit n ∈ upperDigits :=
  List.mem_map_of_mem (List.mem_range.2 h)

theorem hexDigit?_upperDigit {n : Nat} (h : n < 16) : Text.hexDigit? (upperDigit n) = some n := by
  have hall : ∀ n ∈ List.range 16, Text.hexDigit? (upperDigit n) = some n := by decide
  exact hall n (List.mem_range.2 h)

theorem toNat_div_lt (b : UInt8) : b.toNat / 16 < 16 := by
  have hb := b.toNat_lt
  omega

theorem toNat_mod_lt (b : UInt8) : b.toNat % 16 < 16 :=
  Nat.mod_lt _ (by decide)

/-- An encoded byte consists of a percent sign and digits. -/
theorem mem_encodeByte {b : UInt8} (h : c ∈ encodeByte b) : c = '%' ∨ c ∈ upperDigits := by
  simp only [encodeByte, List.mem_cons, List.not_mem_nil, or_false] at h
  rcases h with rfl | rfl | rfl
  · exact .inl rfl
  · exact .inr (upperDigit_mem (toNat_div_lt b))
  · exact .inr (upperDigit_mem (toNat_mod_lt b))

/-- The characters of an encoded text. -/
theorem mem_encodeChars (h : c ∈ encodeChars chosen s) :
    (c ∈ s ∧ chosen c = false) ∨ c = '%' ∨ c ∈ upperDigits := by
  obtain ⟨d, hd, hc⟩ := List.mem_flatMap.1 h
  split at hc
  · obtain ⟨b, -, hb⟩ := List.mem_flatMap.1 hc
    exact .inr (mem_encodeByte hb)
  · obtain rfl := List.mem_singleton.1 hc
    exact .inl ⟨hd, Bool.eq_false_iff.2 ‹_›⟩

@[simp] theorem encodeChars_nil : encodeChars chosen [] = [] :=
  rfl

theorem encodeChars_cons_of_chosen (h : chosen c = true) :
    encodeChars chosen (c :: s) =
      (utf8EncodeChar c).flatMap encodeByte ++ encodeChars chosen s := by
  rw [encodeChars, List.flatMap_cons, if_pos h]
  rfl

theorem encodeChars_cons_of_not_chosen (h : chosen c = false) :
    encodeChars chosen (c :: s) = c :: encodeChars chosen s := by
  rw [encodeChars, List.flatMap_cons, if_neg (by simp [h])]
  rfl

theorem encodeChars_append :
    encodeChars chosen (s ++ t) = encodeChars chosen s ++ encodeChars chosen t :=
  List.flatMap_append

/-- Where nothing is chosen, text stays as it is. -/
theorem encodeChars_eq_self (h : ∀ c ∈ s, chosen c = false) : encodeChars chosen s = s := by
  induction s with
  | nil => rfl
  | cons c s ih =>
      rw [encodeChars_cons_of_not_chosen (h c List.mem_cons_self),
        ih fun c hc => h c (List.mem_cons_of_mem _ hc)]

/-- An encoded character starts with a percent sign. -/
theorem encodeChars_cons_of_chosen_eq (h : chosen c = true) :
    ∃ rest, encodeChars chosen (c :: s) = '%' :: rest := by
  obtain ⟨b, tail, hbytes, -⟩ := Text.utf8EncodeChar_eq_cons c
  rw [encodeChars_cons_of_chosen h, hbytes]
  exact ⟨_, rfl⟩

/-! ## Separators -/

/-- The parts of a text hold characters of the text, and no separator. -/
theorem mem_of_mem_splitOnP {p : Char → Bool} {part : List Char} (hpart : part ∈ s.splitOnP p)
    (hc : c ∈ part) : c ∈ s ∧ p c = false := by
  induction s generalizing part with
  | nil =>
      rw [List.splitOnP_nil, List.mem_singleton] at hpart
      subst hpart
      cases hc
  | cons d s ih =>
      rw [List.splitOnP_cons_eq_if_modifyHead] at hpart
      split at hpart
      · rcases List.mem_cons.1 hpart with rfl | hpart
        · cases hc
        · exact (ih hpart hc).imp_left (List.mem_cons_of_mem d)
      · rename_i hd
        cases hparts : s.splitOnP p with
        | nil => exact absurd hparts (List.splitOnP_ne_nil p s)
        | cons first parts =>
            rw [hparts, List.modifyHead_cons, List.mem_cons] at hpart
            have hmem {part : List Char} (hpart : part ∈ first :: parts) (hc : c ∈ part) :=
              (ih (hparts ▸ hpart) hc).imp_left (List.mem_cons_of_mem d)
            rcases hpart with rfl | hpart
            · rcases List.mem_cons.1 hc with rfl | hc
              · exact ⟨List.mem_cons_self, Bool.eq_false_iff.2 hd⟩
              · exact hmem List.mem_cons_self hc
            · exact hmem (List.mem_cons_of_mem _ hpart) hc

theorem not_mem_of_mem_splitOn {part : List Char} (hpart : part ∈ s.splitOn c) : c ∉ part := by
  intro hc
  have hself := (mem_of_mem_splitOnP hpart hc).2
  rw [beq_self_eq_true] at hself
  cases hself

/-- Characters that separate parts are not encoded, and no encoded byte holds one. -/
structure Separates (chosen : Char → Bool) (mark : Char) : Prop where
  kept : chosen mark = false
  ne_percent : mark ≠ '%'
  not_digit : mark ∉ upperDigits

theorem Separates.mem_iff (h : Separates chosen c) : c ∈ encodeChars chosen s ↔ c ∈ s := by
  constructor
  · intro hmem
    rcases mem_encodeChars hmem with ⟨hs, -⟩ | hpercent | hdigit
    · exact hs
    · exact absurd hpercent h.ne_percent
    · exact absurd hdigit h.not_digit
  · intro hs
    exact List.mem_flatMap.2 ⟨c, hs, by rw [h.kept]; exact List.mem_singleton.2 rfl⟩

theorem encodeChars_intercalate (h : chosen c = false) (parts : List (List Char)) :
    encodeChars chosen ([c].intercalate parts) =
      [c].intercalate (parts.map (encodeChars chosen)) := by
  induction parts with
  | nil => rfl
  | cons part parts ih =>
      cases parts with
      | nil => simp [List.intercalate]
      | cons next parts =>
          rw [List.map_cons, List.map_cons, List.intercalate_cons_cons, List.intercalate_cons_cons,
            encodeChars_append, encodeChars_append, ih, encodeChars_cons_of_not_chosen h]
          rfl

/-- Encoded text is separated where the text is. -/
theorem splitOn_encodeChars (h : Separates chosen c) (s : List Char) :
    (encodeChars chosen s).splitOn c = (s.splitOn c).map (encodeChars chosen) := by
  -- Text can be put together from its parts, and so can its encoding, as no part holds the separator.
  have hparts : ∀ part ∈ (s.splitOn c).map (encodeChars chosen), c ∉ part := by
    intro part hpart hmem
    obtain ⟨original, horiginal, rfl⟩ := List.mem_map.1 hpart
    exact not_mem_of_mem_splitOn horiginal (h.mem_iff.1 hmem)
  have hne : (s.splitOn c).map (encodeChars chosen) ≠ [] := by simp
  calc (encodeChars chosen s).splitOn c
    _ = (encodeChars chosen ([c].intercalate (s.splitOn c))).splitOn c := by
        rw [List.intercalate_splitOn]
    _ = ([c].intercalate ((s.splitOn c).map (encodeChars chosen))).splitOn c := by
        rw [encodeChars_intercalate h.kept]
    _ = (s.splitOn c).map (encodeChars chosen) := List.splitOn_intercalate c hparts hne

/-! ## Decoding -/

/-- Whether two hexadecimal digits come next. -/
def digitsFollow : List Char → Bool
  | x :: y :: _ => (Text.hexDigit? x).isSome && (Text.hexDigit? y).isSome
  | _ => false

/-- Whether text holds what would be decoded. -/
def hasEscape : List Char → Bool
  | [] => false
  | c :: rest => (c = '%' && digitsFollow rest) || hasEscape rest

theorem decodeBytes_nil : decodeBytes [] = [] := by
  rw [decodeBytes.eq_def]

theorem decodeBytes_cons_of_ne (h : c ≠ '%') (s : List Char) :
    decodeBytes (c :: s) = utf8EncodeChar c ++ decodeBytes s := by
  rw [decodeBytes.eq_def]
  split
  · rename_i heq
    cases heq
    exact absurd rfl h
  · rename_i heq
    cases heq
    rfl
  · rename_i heq
    cases heq

/-- A percent sign without two digits after it stands for itself. -/
theorem decodeBytes_percent (h : digitsFollow s = false) :
    decodeBytes ('%' :: s) = utf8EncodeChar '%' ++ decodeBytes s := by
  rw [decodeBytes.eq_def]
  split
  · rename_i x y rest heq
    cases heq
    split
    · rename_i hx hy
      rw [digitsFollow, hx, hy] at h
      cases h
    · rfl
  · rename_i heq
    cases heq
    rfl
  · rename_i heq
    cases heq

theorem decodeBytes_escape {x y : Char} {high low : Nat} (hx : Text.hexDigit? x = some high)
    (hy : Text.hexDigit? y = some low) (s : List Char) :
    decodeBytes ('%' :: x :: y :: s) = UInt8.ofNat (16 * high + low) :: decodeBytes s := by
  rw [decodeBytes.eq_def]
  simp only [hx, hy]

theorem decodeBytes_encodeByte (b : UInt8) (s : List Char) :
    decodeBytes (encodeByte b ++ s) = b :: decodeBytes s := by
  have hb : 16 * (b.toNat / 16) + b.toNat % 16 = b.toNat := Nat.div_add_mod ..
  show decodeBytes ('%' :: _ :: _ :: s) = _
  rw [decodeBytes_escape (hexDigit?_upperDigit (toNat_div_lt b))
    (hexDigit?_upperDigit (toNat_mod_lt b)), hb, UInt8.ofNat_toNat]

theorem decodeBytes_encodeBytes (bytes : List UInt8) (s : List Char) :
    decodeBytes (bytes.flatMap encodeByte ++ s) = bytes ++ decodeBytes s := by
  induction bytes with
  | nil => rfl
  | cons b bytes ih =>
      rw [List.flatMap_cons, List.append_assoc, decodeBytes_encodeByte, ih]
      rfl

/-- Digits that follow in an encoded text follow in the text. -/
theorem digitsFollow_encodeChars (h : digitsFollow (encodeChars chosen s) = true) :
    ∃ x y rest, s = x :: y :: rest ∧ (Text.hexDigit? x).isSome = true ∧
      (Text.hexDigit? y).isSome = true ∧
      encodeChars chosen s = x :: y :: encodeChars chosen rest := by
  have hpercent : (Text.hexDigit? '%').isSome = false := by decide
  cases s with
  | nil => cases h
  | cons x s =>
      cases hx : chosen x with
      | true =>
          obtain ⟨rest, heq⟩ := encodeChars_cons_of_chosen_eq (s := s) hx
          rw [heq] at h
          cases rest <;> simp [digitsFollow, hpercent] at h
      | false =>
          rw [encodeChars_cons_of_not_chosen hx] at h ⊢
          cases s with
          | nil => cases h
          | cons y s =>
              cases hy : chosen y with
              | true =>
                  obtain ⟨rest, heq⟩ := encodeChars_cons_of_chosen_eq (s := s) hy
                  rw [heq] at h
                  simp [digitsFollow, hpercent] at h
              | false =>
                  rw [encodeChars_cons_of_not_chosen hy] at h ⊢
                  simp only [digitsFollow, Bool.and_eq_true] at h
                  exact ⟨x, y, s, rfl, h.1, h.2, rfl⟩

/-- Digits that follow in a text follow in its encoding, where no digit is chosen. -/
theorem digitsFollow_of_not_chosen
    (hdigits : ∀ c, (Text.hexDigit? c).isSome = true → chosen c = false)
    (h : digitsFollow s = true) : digitsFollow (encodeChars chosen s) = true := by
  match s, h with
  | x :: y :: s, h =>
    have hboth := h
    simp only [digitsFollow, Bool.and_eq_true] at hboth
    rw [encodeChars_cons_of_not_chosen (hdigits x hboth.1),
      encodeChars_cons_of_not_chosen (hdigits y hboth.2)]
    exact h

/-- One character of an encoded text is decoded to its bytes, if it begins no escape. -/
theorem decodeBytes_encodeChars_cons
    (h : c ≠ '%' ∨ digitsFollow (encodeChars chosen s) = false) :
    decodeBytes (encodeChars chosen (c :: s)) =
      utf8EncodeChar c ++ decodeBytes (encodeChars chosen s) := by
  cases hc : chosen c with
  | true => rw [encodeChars_cons_of_chosen hc, decodeBytes_encodeBytes]
  | false =>
      rw [encodeChars_cons_of_not_chosen hc]
      by_cases hpercent : c = '%'
      · subst hpercent
        exact decodeBytes_percent (h.resolve_left fun hne => hne rfl)
      · exact decodeBytes_cons_of_ne hpercent _

/-- Text without escapes comes back from its encoding. -/
theorem decodeBytes_encodeChars (h : hasEscape s = false) :
    decodeBytes (encodeChars chosen s) = s.flatMap utf8EncodeChar := by
  induction s with
  | nil => exact decodeBytes_nil
  | cons c s ih =>
      simp only [hasEscape, Bool.or_eq_false_iff] at h
      rw [decodeBytes_encodeChars_cons, ih h.2, List.flatMap_cons]
      by_cases hpercent : c = '%'
      · refine .inr (Bool.eq_false_iff.2 fun hdigits => ?_)
        obtain ⟨x, y, rest, rfl, hx, hy, -⟩ := digitsFollow_encodeChars hdigits
        simp [hpercent, digitsFollow, hx, hy] at h
      · exact .inl hpercent

theorem length_utf8EncodeChar_pos (c : Char) : 0 < (utf8EncodeChar c).length :=
  List.length_pos_iff.2 String.utf8EncodeChar_ne_nil

/-- What comes back has no more bytes than the text, and an escape that is read makes them fewer. -/
theorem length_decodeBytes_encodeChars
    (hdigits : ∀ c, (Text.hexDigit? c).isSome = true → chosen c = false)
    (hpercent : chosen '%' = false) (s : List Char) :
    (decodeBytes (encodeChars chosen s)).length + (hasEscape s).toNat ≤
      (s.flatMap utf8EncodeChar).length := by
  match s with
  | [] => exact Nat.le_of_eq (congrArg List.length decodeBytes_nil)
  | c :: s =>
    by_cases hescape : c = '%' ∧ digitsFollow (encodeChars chosen s) = true
    · -- Three characters have become one byte. This pays for the escape, and for one that may begin
      -- at the second or the third of them.
      obtain ⟨rfl, hfollow⟩ := hescape
      obtain ⟨x, y, rest, rfl, hx, hy, heq⟩ := digitsFollow_encodeChars hfollow
      obtain ⟨high, hhigh⟩ := Option.isSome_iff_exists.1 hx
      obtain ⟨low, hlow⟩ := Option.isSome_iff_exists.1 hy
      have ih := length_decodeBytes_encodeChars hdigits hpercent rest
      have htop : (hasEscape ('%' :: x :: y :: rest)).toNat ≤ 1 := Bool.toNat_le _
      have hpos := length_utf8EncodeChar_pos '%'
      have hxpos := length_utf8EncodeChar_pos x
      have hypos := length_utf8EncodeChar_pos y
      rw [encodeChars_cons_of_not_chosen hpercent, heq, decodeBytes_escape hhigh hlow]
      simp only [List.flatMap_cons, List.length_cons, List.length_append]
      omega
    · have hplain : c ≠ '%' ∨ digitsFollow (encodeChars chosen s) = false := by
        by_cases hc : c = '%'
        · exact .inr (Bool.eq_false_iff.2 fun h => hescape ⟨hc, h⟩)
        · exact .inl hc
      have hsame : hasEscape (c :: s) = hasEscape s := by
        have hnone : (c = '%' && digitsFollow s) = false := by
          refine Bool.eq_false_iff.2 fun h => ?_
          rw [Bool.and_eq_true, decide_eq_true_eq] at h
          exact hescape ⟨h.1, digitsFollow_of_not_chosen hdigits h.2⟩
        rw [hasEscape, hnone, Bool.false_or]
      have ih := length_decodeBytes_encodeChars hdigits hpercent s
      rw [decodeBytes_encodeChars_cons hplain, hsame]
      simp only [List.flatMap_cons, List.length_append]
      omega
termination_by s.length

end JobLog.Web
