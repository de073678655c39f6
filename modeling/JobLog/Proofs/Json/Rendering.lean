import JobLog.Proofs.Json.Values

/-!
# Values that are written

The text of a value is read back as the value, whatever the texts in it: `Value.parse_render`. This
holds for values without doubles whose integers fit into 64 bits and whose brackets are not nested
too deeply (`Value.Plain`). Every character of a text is written as itself or as an escape that
stands for it (`quoted_escapeChar`), and integers are written with the digits that add up to them
(`integer_render`).
-/

namespace JobLog.Json

open String (utf8EncodeChar)
open Text (encode)

/-! ## Texts -/

/-- The byte of a digit. -/
def digitByte (n : Nat) : UInt8 :=
  UInt8.ofNat (Nat.digitChar n).toNat

theorem utf8EncodeChar_digitChar :
    ∀ n < 16, utf8EncodeChar (Nat.digitChar n) = [digitByte n] := by
  decide

theorem hexDigit_digitByte {n : Nat} (h : n < 16) : HexDigit (digitByte n) n := by
  have hRead : ∀ n < 16, hexDigit? (digitByte n) = some n := by decide
  exact hexDigit?_eq_some_iff.1 (hRead n h)

theorem digit_digitByte :
    ∀ n < 10, Digit (digitByte n) ∧ (digitByte n).toNat - 48 = n := by
  decide

/-- However a character is written, it is read back. -/
theorem quoted_escapeChar (c : Char) {s r : Bytes} {cs : List Char} (h : Quoted s cs r) :
    Quoted ((escapeChar c).flatMap utf8EncodeChar ++ s) (c :: cs) r := by
  have hChar {n : Nat} (hn : c.toNat = n) (hValid : n < 32) : c = Char.ofNat n := by
    rw [← hn, Char.ofNat_toNat]
  have hShort {b : UInt8} (hMem : (b, c) ∈ shortEscapes) : Quoted (92 :: b :: s) (c :: cs) r :=
    .escape c (b :: s) s r cs (.short b c s hMem) h
  by_cases hQuote : c = '"'
  · subst hQuote
    exact hShort (by decide)
  by_cases hBackslash : c = '\\'
  · subst hBackslash
    exact hShort (by decide)
  by_cases hBackspace : c.toNat = 8
  · rw [hChar hBackspace (by decide)] at hShort ⊢
    exact hShort (b := 98) (by decide)
  by_cases hTab : c.toNat = 9
  · rw [hChar hTab (by decide)] at hShort ⊢
    exact hShort (b := 116) (by decide)
  by_cases hLine : c.toNat = 10
  · rw [hChar hLine (by decide)] at hShort ⊢
    exact hShort (b := 110) (by decide)
  by_cases hFeed : c.toNat = 12
  · rw [hChar hFeed (by decide)] at hShort ⊢
    exact hShort (b := 102) (by decide)
  by_cases hReturn : c.toNat = 13
  · rw [hChar hReturn (by decide)] at hShort ⊢
    exact hShort (b := 114) (by decide)
  rw [escapeChar, if_neg hQuote, if_neg hBackslash, if_neg hBackspace, if_neg hTab, if_neg hLine,
    if_neg hFeed, if_neg hReturn]
  by_cases hControl : c.toNat < 32
  · -- Control characters without a letter are written as a unit.
    have hHigh : c.toNat / 16 < 16 := by omega
    have hLow : c.toNat % 16 < 16 := by omega
    have hZero : HexDigit 48 0 := .digit 48 (by decide) (by decide)
    have hUnit : Unit16 (117 :: 48 :: 48 :: digitByte (c.toNat / 16) ::
        digitByte (c.toNat % 16) :: s) c.toNat s := by
      have hValue : ((0 * 16 + 0) * 16 + c.toNat / 16) * 16 + c.toNat % 16 = c.toNat := by omega
      have hForm := Unit16.hex 48 48 _ _ 0 0 _ _ s hZero hZero (hexDigit_digitByte hHigh)
        (hexDigit_digitByte hLow)
      rwa [hValue] at hForm
    rw [if_pos hControl]
    simp only [hexPair, List.flatMap_cons, List.flatMap_nil,
      utf8EncodeChar_digitChar _ hHigh, utf8EncodeChar_digitChar _ hLow]
    exact .escape c _ s r cs (.unit _ s c hUnit) h
  · rw [if_neg hControl, List.flatMap_singleton]
    exact .raw c s r cs (Nat.not_lt.1 hControl) hQuote hBackslash h

theorem quoted_escaped (cs : List Char) (r : Bytes) :
    Quoted ((cs.flatMap escapeChar ++ ['"']).flatMap utf8EncodeChar ++ r) cs r := by
  induction cs with
  | nil => exact .close r
  | cons c cs ih =>
      rw [List.flatMap_cons, List.append_assoc, List.flatMap_append, List.append_assoc]
      exact quoted_escapeChar c ih

/-- Every text is read back. -/
theorem textual_render (t : String) (r : Bytes) : Textual (encode (renderText t) ++ r) t r := by
  have hBytes : encode (renderText t) ++ r =
      34 :: ((t.toList.flatMap escapeChar ++ ['"']).flatMap utf8EncodeChar ++ r) := by
    rw [Text.encode_eq, renderText, String.toList_ofList]
    rfl
  rw [hBytes]
  exact .text _ r t (quoted_escaped t.toList r)

/-! ## Integers -/

/-- The digits of a natural number. -/
theorem whole_repr (n : Nat) : ∃ ds, encode n.repr = ds ∧ Whole ds ∧ decimal ds = n := by
  have hDigits (n : Nat) : encode n.repr = (Nat.toDigits 10 n).flatMap utf8EncodeChar := by
    rw [Text.encode_eq, Nat.repr, String.toList_ofList]
  refine ⟨_, rfl, ?_⟩
  rw [hDigits]
  induction n using Nat.strongRecOn with
  | ind n ih =>
      have hMod : n % 10 < 10 := Nat.mod_lt n (by decide)
      obtain ⟨hDigit, hValue⟩ := digit_digitByte (n % 10) hMod
      have hLast := utf8EncodeChar_digitChar (n % 10) (by omega)
      by_cases hn : n < 10
      · rw [Nat.mod_eq_of_lt hn] at hDigit hValue hLast
        rw [Nat.toDigits_of_lt_base hn, List.flatMap_singleton, hLast]
        refine ⟨?_, (Nat.zero_add _).trans hValue⟩
        by_cases hZero : digitByte n = 48
        · exact hZero ▸ .zero
        · exact .digits _ [] hDigit hZero nofun
      · have hLe : 10 ≤ n := Nat.not_lt.1 hn
        obtain ⟨hWhole, hFront⟩ := ih (n / 10) (Nat.div_lt_self (by omega) (by decide))
        rw [Nat.toDigits_of_base_le (by decide) hLe, List.flatMap_append, List.flatMap_singleton,
          hLast]
        generalize (Nat.toDigits 10 (n / 10)).flatMap utf8EncodeChar = front at hWhole hFront
        refine ⟨?_, ?_⟩
        · cases hWhole with
          | zero =>
              have hOne : n / 10 = 0 := hFront.symm
              omega
          | digits d ds hFirst hNonzero hRest =>
              refine .digits d (ds ++ [digitByte (n % 10)]) hFirst hNonzero fun e he => ?_
              rcases List.mem_append.1 he with he | he
              · exact hRest e he
              · rw [List.mem_singleton.1 he]
                exact hDigit
        · rw [decimal, List.foldl_append]
          show decimal front * 10 + ((digitByte (n % 10)).toNat - 48) = n
          omega

/-- Every integer is written with its sign and its digits. -/
theorem integer_render (n : Int) (r : Bytes) : Integer (encode (toString n) ++ r) n r := by
  cases n with
  | ofNat m =>
      obtain ⟨ds, hBytes, hWhole, hValue⟩ := whole_repr m
      have hForm := Integer.positive ds r hWhole
      rw [hValue, ← hBytes] at hForm
      exact hForm
  | negSucc m =>
      obtain ⟨ds, hBytes, hWhole, hValue⟩ := whole_repr (m + 1)
      have hNonzero : ds ≠ [48] := fun hZero =>
        absurd (hValue.symm.trans (hWhole.decimal_eq_zero_iff.2 hZero)) (Nat.succ_ne_zero m)
      have hForm := Integer.negative ds r hWhole hNonzero
      rw [hValue, ← hBytes] at hForm
      have hMinus : encode (toString (Int.negSucc m)) = 45 :: encode (m + 1).repr := by
        rw [Text.encode_eq, Text.encode_eq]
        show ("-" ++ (m + 1).repr).toList.flatMap utf8EncodeChar = _
        rw [String.toList_append]
        rfl
      rw [hMinus]
      exact hForm

/-! ## Lists and objects -/

theorem encode_append (s t : String) : encode (s ++ t) = encode s ++ encode t := by
  simp only [Text.encode_eq, String.toList_append, List.flatMap_append]

/-- The texts of several items, a comma before each. -/
def commaBefore (texts : List String) : Bytes :=
  texts.flatMap fun t => 44 :: encode t

theorem encode_intercalate (t : String) (texts : List String) :
    encode (",".intercalate (t :: texts)) = encode t ++ commaBefore texts := by
  induction texts generalizing t with
  | nil => simp [commaBefore]
  | cons u texts ih =>
      rw [String.intercalate_cons_cons, encode_append, encode_append, ih, List.append_assoc]
      rfl

section Items

variable {α : Type} {item : Bytes → α → Bytes → Prop} {close : UInt8} {text : α → String}

theorem sequence_commaBefore {as : List α}
    (h : ∀ a ∈ as, ∀ r, item (encode (text a) ++ r) a r) (r : Bytes) :
    Sequence item close false (commaBefore (as.map text) ++ close :: r) as r := by
  induction as with
  | nil => exact .close false _ r (.none _)
  | cons a as ih =>
      have hLater := ih fun b hb => h b (List.mem_cons_of_mem a hb)
      have hBytes : commaBefore ((a :: as).map text) ++ close :: r =
          44 :: (encode (text a) ++ (commaBefore (as.map text) ++ close :: r)) := by
        simp [commaBefore]
      rw [hBytes]
      exact .item false _ _ _ r a as (.next _ _ (.none _)) (h a List.mem_cons_self _) hLater

/-- Items that are written one by one are written with commas between them. -/
theorem sequence_intercalate {as : List α} (h : ∀ a ∈ as, ∀ r, item (encode (text a) ++ r) a r)
    (r : Bytes) :
    Sequence item close true (encode (",".intercalate (as.map text)) ++ close :: r) as r := by
  cases as with
  | nil => exact .close true _ r (.none _)
  | cons a as =>
      rw [List.map_cons, encode_intercalate, List.append_assoc]
      exact .item true _ _ _ r a as (.first _) (h a List.mem_cons_self _)
        (sequence_commaBefore (fun b hb => h b (List.mem_cons_of_mem a hb)) r)

end Items

theorem renderItems_eq (items : List Value) : renderItems items = items.map Value.render := by
  induction items with
  | nil => rfl
  | cons v items ih => rw [renderItems, ih, List.map_cons]

/-- The text of a member. -/
def renderMember (member : String × Value) : String :=
  renderText member.1 ++ ":" ++ member.2.render

theorem renderMembers_eq (members : List (String × Value)) :
    renderMembers members = members.map renderMember := by
  induction members with
  | nil => rfl
  | cons member members ih =>
      obtain ⟨key, v⟩ := member
      rw [renderMembers, ih, List.map_cons]
      rfl

/-! ## Values -/

/-- Values without doubles, their integers in 64 bits, and with less than `depth` brackets inside
each other. -/
inductive Value.Plain : Nat → Value → Prop where
  | null {depth : Nat} : Plain (depth + 1) .null
  | flag {depth : Nat} (b : Bool) : Plain (depth + 1) (.flag b)
  | integer {depth : Nat} {n : Int} (hLow : Int64.minValue.toInt ≤ n) (hHigh : n < UInt64.size) :
      Plain (depth + 1) (.integer n)
  | text {depth : Nat} (t : String) : Plain (depth + 1) (.text t)
  | list {depth : Nat} {items : List Value} (hItems : ∀ v ∈ items, Plain (depth + 1) v) :
      Plain (depth + 2) (.list items)
  | object {depth : Nat} {members : List (String × Value)}
      (hMembers : ∀ member ∈ members, Plain (depth + 1) member.2) :
      Plain (depth + 2) (.object members)

/-- A plain value is written as its text. -/
theorem Value.Plain.written {depth : Nat} {v : Value} (h : v.Plain depth) (r : Bytes) :
    Written depth (encode v.render ++ r) v r := by
  induction h generalizing r with
  | null => exact .null r
  | flag b =>
      cases b with
      | true => exact .flag _ r true (.true r)
      | false => exact .flag _ r false (.false r)
  | @integer _ n hLow hHigh => exact .integer _ r n (integer_render n r) hLow hHigh
  | text t => exact .text _ r t (textual_render t r)
  | @list depth items _ ih =>
      have hBytes : encode (Value.list items).render ++ r =
          91 :: (encode (",".intercalate (items.map render)) ++ 93 :: r) := by
        rw [render, renderItems_eq, encode_append, encode_append, List.append_assoc,
          List.append_assoc]
        rfl
      rw [hBytes]
      exact .list _ r items depth.succ_pos
        (sequence_intercalate (fun v hv r => .value _ _ r v (.none _) (ih v hv r)) r)
  | @object depth members _ ih =>
      have hBytes : encode (Value.object members).render ++ r =
          123 :: (encode (",".intercalate (members.map renderMember)) ++ 125 :: r) := by
        rw [render, renderMembers_eq, encode_append, encode_append, List.append_assoc,
          List.append_assoc]
        rfl
      rw [hBytes]
      refine .object _ r members depth.succ_pos
        (sequence_intercalate (fun member hMember r => ?_) r)
      rw [renderMember, encode_append, encode_append, List.append_assoc, List.append_assoc]
      exact .member _ _ _ _ _ r member.1 member.2 (.none _) (textual_render member.1 _) (.none _)
        (.none _) (ih member hMember r)

/-- The text of a plain value is read back as this value. -/
theorem Value.parse_render {v : Value} (h : v.Plain depthLimit) :
    Value.parse (encode v.render) = .ok v := by
  have hWritten := h.written []
  rw [List.append_nil] at hWritten
  exact parse_of_written hWritten

end JobLog.Json
