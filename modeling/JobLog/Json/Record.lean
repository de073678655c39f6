import JobLog.Json.Reader

/-!
# Records

A record is written as an object whose members stand in any order, or as the list of its fields
in their order. Unknown members are passed over, repeated ones too; a known member may stand only
once. `Fields` lists the names, presence and readers of a record's fields, and `record` reads it
into the tuple of their values.
-/

namespace JobLog.Json

/-- Whether a field must be written. A field with a default need not be a member of an object;
`inLists` tells that it may also be left out at the end of a list. -/
inductive Presence (α : Type) where
  | required
  | optional (absent : α) (inLists : Bool)

/-- The fields of a record in their order. -/
inductive Fields : List Type → Type 1 where
  | nil : Fields []
  | cons {α : Type} {types : List Type} (name : String) (presence : Presence α)
      (reader : Reader α) (rest : Fields types) : Fields (α :: types)

/-- One value per field. -/
def Values : List Type → Type
  | [] => Unit
  | α :: types => α × Values types

/-- The values that have been read so far. -/
def Slots : List Type → Type
  | [] => Unit
  | α :: types => Option α × Slots types

/-- No value has been read. -/
def Slots.empty : (types : List Type) → Slots types
  | [] => ()
  | _ :: types => (none, Slots.empty types)

/-- The number of fields. -/
def Fields.count {types : List Type} : Fields types → Nat
  | .nil => 0
  | .cons _ _ _ rest => rest.count + 1

/-- Read a colon and a value into a slot that must be free. -/
def fillSlot {α : Type} (name : String) (reader : Reader α) (slot : Option α) (s : Bytes) :
    Except Failure (α × Bytes) :=
  match slot with
  | some _ => refuse (.duplicateMember name) (skipSpace s)
  | none =>
    match colon s with
    | .error e => .error e
    | .ok s => reader.read s

theorem fillSlot_length_lt {α : Type} {name : String} {reader : Reader α} {slot : Option α}
    {s r : Bytes} {a : α} (h : fillSlot name reader slot s = .ok (a, r)) :
    r.length < s.length := by
  unfold fillSlot at h
  split at h
  · cases h
  · split at h
    · cases h
    · have h1 := colon_length_lt ‹_›
      have h2 := reader.advances h
      omega

/-- Read the value of the member `key`, whose key has been read; nothing if no field is called
so. -/
def Fields.member? {types : List Type} (fields : Fields types) (key : String)
    (slots : Slots types) (s : Bytes) : Option (Except Failure (Slots types × Bytes)) :=
  match fields, slots with
  | .nil, _ => none
  | .cons name _ reader rest, (slot, slots) =>
    if key = name then
      match fillSlot name reader slot s with
      | .error e => some (.error e)
      | .ok (a, r) => some (.ok ((some a, slots), r))
    else
      match rest.member? key slots s with
      | none => none
      | some (.error e) => some (.error e)
      | some (.ok (slots, r)) => some (.ok ((slot, slots), r))

theorem Fields.member?_length_lt {types : List Type} {fields : Fields types} {key : String}
    {slots filled : Slots types} {s r : Bytes}
    (h : fields.member? key slots s = some (.ok (filled, r))) : r.length < s.length := by
  induction fields with
  | nil => simp [Fields.member?] at h
  | cons name presence reader rest ih =>
    obtain ⟨slot, slots⟩ := slots
    rw [Fields.member?] at h
    split at h
    · split at h <;> cases h
      exact fillSlot_length_lt ‹_›
    · split at h <;> cases h
      exact ih ‹_›

/-- Read the members of an object up to its closing bracket. -/
def Fields.members {types : List Type} (fields : Fields types) (first : Bool)
    (slots : Slots types) (s : Bytes) : Except Failure (Slots types × Bytes) :=
  match _next : nextMember first s with
  | .error e => .error e
  | .ok (false, r) => .ok (slots, r)
  | .ok (true, r) =>
    match _key : string r with
    | .error e => .error e
    | .ok (key, r) =>
      match _member : fields.member? key slots r with
      | some (.error e) => .error e
      | some (.ok (slots, r)) => fields.members false slots r
      | none =>
        match _colon : colon r with
        | .error e => .error e
        | .ok r =>
          match _skip : skip r with
          | .error e => .error e
          | .ok r => fields.members false slots r
termination_by s.length
decreasing_by
  · have h1 := nextMember_length_lt _next
    have h2 := string_length_lt _key
    have h3 := Fields.member?_length_lt _member
    omega
  · have h1 := nextMember_length_lt _next
    have h2 := string_length_lt _key
    have h3 := colon_length_lt _colon
    have h4 := skip_length_lt _skip
    omega

theorem Fields.members_length_lt {types : List Type} {fields : Fields types} {first : Bool}
    {slots filled : Slots types} {s r : Bytes}
    (h : fields.members first slots s = .ok (filled, r)) : r.length < s.length := by
  fun_induction Fields.members fields first slots s with
  | case1 => cases h
  | case2 first slots s r hn => cases h; exact nextMember_length_lt hn
  | case3 => cases h
  | case4 => cases h
  | case5 first slots s u hn v key hk w slots' hm ih =>
    have h1 := nextMember_length_lt hn
    have h2 := string_length_lt hk
    have h3 := Fields.member?_length_lt hm
    have h4 := ih h
    omega
  | case6 => cases h
  | case7 => cases h
  | case8 first slots s u hn v key hk _ w hc x hx ih =>
    have h1 := nextMember_length_lt hn
    have h2 := string_length_lt hk
    have h3 := colon_length_lt hc
    have h4 := skip_length_lt hx
    have h5 := ih h
    omega

/-- The values of the fields, or the name of the first required one that was not read. -/
def Fields.finish {types : List Type} (fields : Fields types) (slots : Slots types) :
    Except String (Values types) :=
  match fields, slots with
  | .nil, _ => .ok ()
  | .cons name presence _ rest, (slot, slots) =>
    match slot, presence with
    | some a, _ | none, .optional a _ => (rest.finish slots).map ((a, ·))
    | none, .required => .error name

/-- Read the fields as elements of a list up to its closing bracket; `read` is the number of
those that have been read and `total` what a list that is too short should have. -/
def Fields.elements {types : List Type} (fields : Fields types) (total : String) (read : Nat)
    (s : Bytes) : Except Failure (Values types × Bytes) :=
  match fields with
  | .nil => .ok ((), s)
  | .cons _ presence reader rest =>
    match nextElement (read = 0) s with
    | .error e => .error e
    | .ok (true, s) =>
      match reader.read s with
      | .error e => .error e
      | .ok (a, s) =>
        match rest.elements total (read + 1) s with
        | .error e => .error e
        | .ok (values, s) => .ok ((a, values), s)
    | .ok (false, s) =>
      match presence with
      | .optional a true =>
        match rest.elements total (read + 1) s with
        | .error e => .error e
        | .ok (values, s) => .ok ((a, values), s)
      | _ => refuse (.wrongLength read total) (s.drop 1)

theorem Fields.elements_length_le {types : List Type} {fields : Fields types} {total : String}
    {read : Nat} {s r : Bytes} {values : Values types}
    (h : fields.elements total read s = .ok (values, r)) : r.length ≤ s.length := by
  induction fields generalizing read s r with
  | nil => cases h; exact Nat.le_refl _
  | cons name presence reader rest ih =>
    rw [Fields.elements] at h
    split at h
    · cases h
    · have h1 := nextElement_length_le ‹_›
      split at h
      · cases h
      · have h2 := reader.advances ‹_›
        split at h <;> cases h
        have h3 := ih ‹_›
        omega
    · have h1 := nextElement_length_le ‹_›
      split at h
      · split at h <;> cases h
        have h3 := ih ‹_›
        omega
      · cases h

/-- Read a record from an object or a list; `title` is what messages call it. -/
def Fields.read {types : List Type} (fields : Fields types) (title : String) (s : Bytes) :
    Except Failure (Values types × Bytes) :=
  match skipSpace s with
  | [] => refuse .endInValue []
  | b :: t =>
    if b = 91 then
      match fields.elements (title ++ " with " ++ toString fields.count ++ " elements") 0 t with
      | .error e => .error e
      | .ok (values, r) =>
        match closeList r with
        | .error e => .error e
        | .ok r => .ok (values, r)
    else if b = 123 then
      match fields.members true (Slots.empty types) t with
      | .error e => .error e
      | .ok (slots, r) =>
        match fields.finish slots with
        | .error name => refuse (.missingMember name) r
        | .ok values => .ok (values, r)
    else mismatch title (b :: t)

theorem Fields.read_length_lt {types : List Type} {fields : Fields types} {title : String}
    {s r : Bytes} {v : Values types} (h : fields.read title s = .ok (v, r)) :
    r.length < s.length := by
  unfold Fields.read at h
  have hs := skipSpace_length_le s
  split at h
  · cases h
  · rename_i b t heq
    simp only [heq, List.length_cons] at hs
    split at h
    · split at h
      · cases h
      · have h1 := Fields.elements_length_le ‹_›
        split at h <;> cases h
        have h2 := closeList_length_lt ‹_›
        omega
    · split at h
      · split at h
        · cases h
        · have h1 := Fields.members_length_lt ‹_›
          split at h <;> cases h
          omega
      · exact absurd h mismatch_ne_ok

/-- The reader of a record. -/
def record {types : List Type} (title : String) (fields : Fields types) :
    Reader (Values types) where
  read := fields.read title
  advances := Fields.read_length_lt

end JobLog.Json
