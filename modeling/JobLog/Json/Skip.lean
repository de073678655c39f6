import JobLog.Json.Scan

/-!
# Passing over a value

`skip` reads any syntactically valid value and keeps nothing of it. The brackets that are open
are a list of frames, so that the depth of a value is bounded by its length only.
-/

namespace JobLog.Json

/-- The kind of an open bracket. -/
inductive Frame where
  | list
  | object
  deriving DecidableEq

/-- What an end of the input inside a bracket is called. -/
def Frame.atEnd : Frame → Cause
  | .list => .endInList
  | .object => .endInObject

/-- What a wrong byte after an item is called. -/
def Frame.unclosed : Frame → Cause
  | .list => .expectedListEnd
  | .object => .expectedObjectEnd

/-- The byte that closes a bracket. -/
def Frame.close : Frame → UInt8
  | .list => 93
  | .object => 125

/-- Input after a word, number or string that starts with `b`. -/
def skipScalar (b : UInt8) (s : Bytes) : Except Failure Bytes :=
  if b = 110 then word nullTail s
  else if b = 116 then word trueTail s
  else if b = 102 then word falseTail s
  else if b = 45 then (numeral .invalidNumber true s).map (·.rest)
  else if isDigit b then (numeral .invalidNumber false (b :: s)).map (·.rest)
  else if b = 34 then skipString s
  else refuse .expectedValue s

theorem skipScalar_length_le {b : UInt8} {s r : Bytes} (h : skipScalar b s = .ok r) :
    r.length ≤ s.length := by
  unfold skipScalar at h
  repeat' split at h
  · exact word_length_le h
  · exact word_length_le h
  · exact word_length_le h
  · cases hn : numeral .invalidNumber true s with
    | error e => simp [hn, Except.map] at h
    | ok n =>
      simp only [hn, Except.map, Except.ok.injEq] at h
      exact h ▸ Nat.le_of_lt (numeral_length_lt hn)
  · cases hn : numeral .invalidNumber false (b :: s) with
    | error e => simp [hn, Except.map] at h
    | ok n =>
      simp only [hn, Except.map, Except.ok.injEq] at h
      exact h ▸ Nat.le_of_lt_succ (numeral_length_lt hn)
  · exact Nat.le_of_lt (skipString_length_lt h)
  · cases h

/-- Input after the colon that follows a key. -/
def colon (s : Bytes) : Except Failure Bytes :=
  match skipSpace s with
  | [] => refuse .endInObject []
  | b :: s => if b = 58 then .ok s else refuse .expectedColon s

theorem colon_length_lt {s r : Bytes} (h : colon s = .ok r) : r.length < s.length := by
  unfold colon at h
  have hs := skipSpace_length_le s
  split at h
  · cases h
  · rename_i b t heq
    split at h <;> cases h
    simp only [heq, List.length_cons] at hs
    omega

/-- Input after a key and its colon. -/
def skipKey (s : Bytes) : Except Failure Bytes :=
  match skipSpace s with
  | [] => refuse .endInObject []
  | b :: s =>
    if b = 34 then
      match skipString s with
      | .error e => .error e
      | .ok s => colon s
    else refuse .keyNotText s

theorem skipKey_length_lt {s r : Bytes} (h : skipKey s = .ok r) : r.length < s.length := by
  unfold skipKey at h
  have hs := skipSpace_length_le s
  split at h
  · cases h
  · rename_i b t heq
    simp only [heq, List.length_cons] at hs
    split at h
    · cases hk : skipString t with
      | error e => simp [hk] at h
      | ok u =>
        simp only [hk] at h
        have h1 := skipString_length_lt hk
        have h2 := colon_length_lt h
        omega
    · cases h

/-- Input after the key of an object's item; an item of a list has none. -/
def Frame.skipLabel (frame : Frame) (s : Bytes) : Except Failure Bytes :=
  match frame with
  | .list => .ok s
  | .object => skipKey s

theorem Frame.skipLabel_length_le {frame : Frame} {s r : Bytes}
    (h : frame.skipLabel s = .ok r) : r.length ≤ s.length := by
  cases frame with
  | list => cases h; exact Nat.le_refl _
  | object => exact Nat.le_of_lt (skipKey_length_lt h)

mutual

/-- Input after the value at the front of `s` and the brackets around it. -/
def skipItem (frames : List Frame) (s : Bytes) : Except Failure Bytes :=
  match _space : skipSpace s with
  | [] => refuse .endInValue []
  | b :: t =>
    if b = 91 then skipAfter (.list :: frames) false t
    else if b = 123 then skipAfter (.object :: frames) false t
    else
      match _scalar : skipScalar b t with
      | .error e => .error e
      | .ok r => skipAfter frames true r
termination_by (s.length, 0)
decreasing_by
  all_goals
    have hs := skipSpace_length_le s
    simp only [_space, List.length_cons] at hs
    apply Prod.Lex.left
  · omega
  · omega
  · have := skipScalar_length_le _scalar
    omega

/-- Input after the brackets `frames`; `item` tells whether the innermost one has an item before
`s`, so that a comma may follow. -/
def skipAfter (frames : List Frame) (item : Bool) (s : Bytes) : Except Failure Bytes :=
  match frames with
  | [] => .ok s
  | frame :: outer =>
    match _space : skipSpace s with
    | [] => refuse frame.atEnd []
    | b :: t =>
      if b = 44 ∧ item = true then
        match _label : frame.skipLabel t with
        | .error e => .error e
        | .ok r => skipItem (frame :: outer) r
      else if b = frame.close then skipAfter outer true t
      else if item then refuse frame.unclosed t
      else
        match _label : frame.skipLabel (b :: t) with
        | .error e => .error e
        | .ok r => skipItem (frame :: outer) r
termination_by (s.length, 1)
decreasing_by
  all_goals
    have hs := skipSpace_length_le s
    simp only [_space, List.length_cons] at hs
  · have := Frame.skipLabel_length_le _label
    apply Prod.Lex.left
    omega
  · apply Prod.Lex.left
    omega
  · have := Frame.skipLabel_length_le _label
    simp only [List.length_cons] at this
    rcases Nat.lt_or_ge r.length s.length with h | h
    · exact Prod.Lex.left _ _ h
    · have h : r.length = s.length := by omega
      rw [h]
      exact Prod.Lex.right _ (by decide)

end

/-- Input after the value at the front of `s`. -/
def skip (s : Bytes) : Except Failure Bytes :=
  skipItem [] s

theorem skipItem_eq (frames : List Frame) (s : Bytes) :
    skipItem frames s =
      match skipSpace s with
      | [] => refuse .endInValue []
      | b :: t =>
        if b = 91 then skipAfter (.list :: frames) false t
        else if b = 123 then skipAfter (.object :: frames) false t
        else
          match skipScalar b t with
          | .error e => .error e
          | .ok r => skipAfter frames true r := by
  rw [skipItem]
  split <;> rename_i h <;> simp only [h]
  split
  · rfl
  · split
    · rfl
    · split <;> rename_i h <;> simp only [h]

theorem skipAfter_nil (item : Bool) (s : Bytes) : skipAfter [] item s = .ok s := by
  rw [skipAfter]

theorem skipAfter_cons (frame : Frame) (outer : List Frame) (item : Bool) (s : Bytes) :
    skipAfter (frame :: outer) item s =
      match skipSpace s with
      | [] => refuse frame.atEnd []
      | b :: t =>
        if b = 44 ∧ item = true then
          match frame.skipLabel t with
          | .error e => .error e
          | .ok r => skipItem (frame :: outer) r
        else if b = frame.close then skipAfter outer true t
        else if item then refuse frame.unclosed t
        else
          match frame.skipLabel (b :: t) with
          | .error e => .error e
          | .ok r => skipItem (frame :: outer) r := by
  rw [skipAfter]
  split <;> rename_i h <;> simp only [h]
  split
  · split <;> rename_i h <;> simp only [h]
  · split
    · rfl
    · split
      · rfl
      · split <;> rename_i h <;> simp only [h]

/-- Neither function leaves more than it was given, and a value takes at least one byte. -/
theorem skipItem_skipAfter_length :
    (∀ (frames : List Frame) (s r : Bytes), skipItem frames s = .ok r → r.length < s.length) ∧
      ∀ (frames : List Frame) (item : Bool) (s r : Bytes),
        skipAfter frames item s = .ok r → r.length ≤ s.length := by
  apply skipItem.mutual_induct
    (fun frames s => ∀ r, skipItem frames s = .ok r → r.length < s.length)
    (fun frames item s => ∀ r, skipAfter frames item s = .ok r → r.length ≤ s.length)
  · intro frames s space r h
    simp [skipItem_eq, space, refuse] at h
  · intro frames s t space ih r h
    have hs := skipSpace_length_le s
    have := ih r (by simpa [skipItem_eq, space] using h)
    simp only [space, List.length_cons] at hs
    omega
  · intro frames s t space hne ih r h
    have hs := skipSpace_length_le s
    have := ih r (by simpa [skipItem_eq, space] using h)
    simp only [space, List.length_cons] at hs
    omega
  · intro frames s b t space h1 h2 e he r h
    simp [skipItem_eq, space, h1, h2, he] at h
  · intro frames s b t space h1 h2 u hu ih r h
    have hs := skipSpace_length_le s
    have hv := skipScalar_length_le hu
    have := ih r (by simpa [skipItem_eq, space, h1, h2, hu] using h)
    simp only [space, List.length_cons] at hs
    omega
  · intro item s r h
    rw [skipAfter_nil] at h
    cases h
    exact Nat.le_refl _
  · intro item s frame outer space r h
    simp [skipAfter_cons, space, refuse] at h
  · intro item s frame outer b t space hc e he r h
    rw [skipAfter_cons, space] at h
    dsimp only at h
    rw [if_pos hc, he] at h
    cases h
  · intro item s frame outer b t space hc u hu ih r h
    have hs := skipSpace_length_le s
    have hl := Frame.skipLabel_length_le hu
    rw [skipAfter_cons, space] at h
    dsimp only at h
    rw [if_pos hc, hu] at h
    have := ih r h
    simp only [space, List.length_cons] at hs
    omega
  · intro item s frame outer t space hc ih r h
    have hs := skipSpace_length_le s
    rw [skipAfter_cons, space] at h
    dsimp only at h
    rw [if_neg hc, if_pos rfl] at h
    have := ih r h
    simp only [space, List.length_cons] at hs
    omega
  · intro s frame outer b t space hb hc r h
    rw [skipAfter_cons, space] at h
    dsimp only at h
    rw [if_neg hc, if_neg hb, if_pos rfl] at h
    cases h
  · intro item s frame outer b t space hc hb hi e he r h
    rw [skipAfter_cons, space] at h
    dsimp only at h
    rw [if_neg hc, if_neg hb, if_neg hi, he] at h
    cases h
  · intro item s frame outer b t space hc hb hi u hu ih r h
    have hs := skipSpace_length_le s
    have hl := Frame.skipLabel_length_le hu
    rw [skipAfter_cons, space] at h
    dsimp only at h
    rw [if_neg hc, if_neg hb, if_neg hi, hu] at h
    have := ih r h
    simp only [space, List.length_cons] at hs hl
    omega

/-- A value takes at least one byte. -/
theorem skip_length_lt {s r : Bytes} (h : skip s = .ok r) : r.length < s.length :=
  skipItem_skipAfter_length.1 [] s r h

end JobLog.Json
