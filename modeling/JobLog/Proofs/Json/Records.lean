import JobLog.Proofs.Json.Readers

/-!
# Records

A record's fields are found among the members of an object by their keys, wherever they stand, or
in a list by their places. `Fields.FromMembers` and `Fields.FromElements` say which values that
gives. `record` accepts exactly the objects and lists that give all of them (`reads_record`).

Reading an object fills one slot per field. What the slots hold is tied to the members read so far
in two ways: by what those members write, which carries soundness (`Fields.Filled`), and by the
values that the whole object gives, which carries completeness (`Fields.Holds`).
-/

namespace JobLog.Json

/-! ## Items of lists and objects -/

/-- Between the items of a bracket and at its end a value can end. -/
theorem Sequence.ends {α : Type} {item : Bytes → α → Bytes → Prop} {close : UInt8} {s r : Bytes}
    {as : List α} (h : Sequence item close false s as r) (hClose : close = 93 ∨ close = 125) :
    Ends s := by
  cases h with
  | close _ _ _ hSpace => exact .byte close s r hSpace (.inr hClose)
  | item _ _ _ _ _ _ _ hComma => exact hComma.ends

theorem Sequence.loose_list {first : Bool} {s r : Bytes} {spans : List Span}
    (h : Sequence Element 93 first s spans r) : Items .list first s r := by
  induction h with
  | close first s r hClose => exact .close .list first s r hClose
  | item first s start rest r span spans hComma hItem _ ih =>
      cases hItem with
      | value value _ hSpace hValue =>
          exact .item .list first s start start value rest r hComma (.list start) hSpace hValue ih

theorem Sequence.loose_object {first : Bool} {s r : Bytes} {members : List Member}
    (h : Sequence Entry 125 first s members r) : Items .object first s r := by
  induction h with
  | close first s r hClose => exact .close .object first s r hClose
  | item first s start rest r member members hComma hItem _ ih =>
      cases hItem with
      | member after space value _ keyStart key hOpen hKey hColon hSpace hValue =>
          cases hKey with
          | text name _ _ hText =>
              have hLabel : Label .object start space :=
                .object start name after space hOpen hText.unchecked hColon
              exact .item .object first s start space value rest r hComma hLabel hSpace hValue ih

/-- An object is a value, whatever its members write. -/
theorem ObjectOf.loose {s r : Bytes} {members : List Member} (h : ObjectOf s members r) :
    Loose s r := by
  cases h with
  | object t _ _ hMembers => exact .bracket .object t r hMembers.loose_object

/-- A list is a value, whatever its elements write. -/
theorem ListOf.loose {s r : Bytes} {elements : List Span} (h : ListOf s elements r) :
    Loose s r := by
  cases h with
  | list t _ _ hElements => exact .bracket .list t r hElements.loose_list

/-! ## Fields and their forms -/

/-- One form per field. -/
def Forms : List Type → Type
  | [] => Unit
  | α :: types => (Bytes → α → Bytes → Prop) × Forms types

/-- The reader of each field accepts exactly its form. -/
def Fields.Read {types : List Type} (fields : Fields types) (forms : Forms types) : Prop :=
  match fields, forms with
  | .nil, _ => True
  | .cons _ _ reader rest, (form, forms) => Reads reader form ∧ rest.Read forms

/-- The names of the fields. -/
def Fields.names {types : List Type} : Fields types → List String
  | .nil => []
  | .cons name _ _ rest => name :: rest.names

/-- The values of the members with a key, in their order. -/
def named (members : List Member) (key : String) : List Span :=
  (members.filter (·.key = key)).map (·.value)

/-- A value stands in its form at a place of the input. -/
def Span.Writes {α : Type} (span : Span) (form : Bytes → α → Bytes → Prop) (a : α) : Prop :=
  form span.start a span.rest

/-- One value is written, or none where the field has a default. -/
def Presence.Gives {α : Type} (presence : Presence α) (form : Bytes → α → Bytes → Prop)
    (spans : List Span) (a : α) : Prop :=
  (∃ span, spans = [span] ∧ span.Writes form a) ∨
    spans = [] ∧ ∃ inLists, presence = .optional a inLists

/-- The values of the fields that an object with these members gives. -/
def Fields.FromMembers {types : List Type} (fields : Fields types) (forms : Forms types)
    (members : List Member) (values : Values types) : Prop :=
  match fields, forms, values with
  | .nil, _, _ => True
  | .cons name presence _ rest, (form, forms), (a, values) =>
    presence.Gives form (named members name) a ∧ rest.FromMembers forms members values

/-- The values of the fields that a list with these elements gives. -/
def Fields.FromElements {types : List Type} (fields : Fields types) (forms : Forms types)
    (spans : List Span) (values : Values types) : Prop :=
  match fields, forms, values, spans with
  | .nil, _, _, spans => spans = []
  | .cons _ presence _ rest, (_, forms), (a, values), [] =>
    presence = .optional a true ∧ rest.FromElements forms [] values
  | .cons _ _ _ rest, (form, forms), (a, values), span :: spans =>
    span.Writes form a ∧ rest.FromElements forms spans values

/-- A record, written as an object or as a list. -/
inductive Recorded {types : List Type} (fields : Fields types) (forms : Forms types) :
    Bytes → Values types → Bytes → Prop where
  | object (s r : Bytes) (members : List Member) (values : Values types)
      (hObject : ObjectOf s members r) (hFields : fields.FromMembers forms members values) :
      Recorded fields forms s values r
  | list (s r : Bytes) (elements : List Span) (values : Values types)
      (hList : ListOf s elements r) (hFields : fields.FromElements forms elements values) :
      Recorded fields forms s values r

variable {types : List Type} {fields : Fields types} {forms : Forms types}

theorem named_append (before after : List Member) (key : String) :
    named (before ++ after) key = named before key ++ named after key := by
  simp [named]

theorem named_same (key : String) (span : Span) : named [⟨key, span⟩] key = [span] := by
  simp [named]

theorem named_other {key name : String} (h : key ≠ name) (span : Span) :
    named [⟨key, span⟩] name = [] := by
  simp [named, h]

/-! ## Soundness of objects -/

/-- A slot holds what the members with its name write: nothing if there is none. -/
def Holding {α : Type} (form : Bytes → α → Bytes → Prop) (spans : List Span) (slot : Option α) :
    Prop :=
  match slot with
  | none => spans = []
  | some a => ∃ span, spans = [span] ∧ span.Writes form a

/-- The slots hold what the members read so far write. -/
def Fields.Filled {types : List Type} (fields : Fields types) (forms : Forms types)
    (members : List Member) (slots : Slots types) : Prop :=
  match fields, forms, slots with
  | .nil, _, _ => True
  | .cons name _ _ rest, (form, forms), (slot, slots) =>
    Holding form (named members name) slot ∧ rest.Filled forms members slots

/-- Before any member is read no field has a value. -/
theorem Fields.filled_empty {types : List Type} (fields : Fields types) (forms : Forms types) :
    fields.Filled forms [] (Slots.empty types) := by
  induction fields with
  | nil => trivial
  | cons name presence reader rest ih => exact ⟨rfl, ih forms.2⟩

/-- A member that no field is called like changes nothing. -/
theorem Fields.Filled.other {before : List Member} {slots : Slots types}
    (h : fields.Filled forms before slots) {key : String} (hKey : key ∉ fields.names)
    (span : Span) : fields.Filled forms (before ++ [⟨key, span⟩]) slots := by
  induction fields with
  | nil => trivial
  | cons name presence reader rest ih =>
      obtain ⟨hSlot, hRest⟩ := h
      rw [Fields.names, List.mem_cons, not_or] at hKey
      obtain ⟨hName, hNames⟩ := hKey
      refine ⟨?_, ih hRest hNames⟩
      rw [named_append, named_other hName, List.append_nil]
      exact hSlot

/-- A member is left to be skipped if and only if no field is called like it. -/
theorem Fields.member?_eq_none_iff {key : String} {slots : Slots types} {s : Bytes} :
    fields.member? key slots s = none ↔ key ∉ fields.names := by
  induction fields with
  | nil => simp [Fields.member?, Fields.names]
  | cons name presence reader rest ih =>
      obtain ⟨slot, slots⟩ := slots
      rw [Fields.member?, Fields.names, List.mem_cons, not_or]
      by_cases hName : key = name
      · rw [if_pos hName]
        refine iff_of_false ?_ (fun h => h.1 hName)
        split <;> simp
      · rw [if_neg hName]
        have hRest : rest.member? key slots s = none ↔ key ∉ rest.names := ih
        refine Iff.trans ?_ (hRest.trans (by simp [hName]))
        split
        · rename_i hNone
          exact iff_of_true rfl hNone
        · rename_i hSome
          exact iff_of_false (by simp) (by simp [hSome])
        · rename_i hSome
          exact iff_of_false (by simp) (by simp [hSome])

/-- A slot is filled once, with what the value after the colon writes. -/
theorem fillSlot_sound {α : Type} {reader : Reader α} {form : Bytes → α → Bytes → Prop}
    (hReads : Reads reader form) {name : String} {slot : Option α} {s r : Bytes} {a : α}
    (h : fillSlot name reader slot s = .ok (a, r)) :
    slot = none ∧ ∃ space value, Space s (58 :: space) ∧ Space space value ∧ form value a r := by
  unfold fillSlot at h
  split at h
  · cases h
  · split at h
    · cases h
    · rename_i space hColon
      obtain ⟨value, hSpace, hForm⟩ := hReads.sound h
      exact ⟨rfl, space, value, colon_eq_ok_iff.1 hColon, hSpace, hForm⟩

/-- A member that a field is called like stands in the input, and its slot holds what it writes. The
slot was empty before. -/
theorem Fields.member?_sound (hRead : fields.Read forms) (hNames : fields.names.Nodup)
    {before : List Member} {key : String} {slots filled : Slots types} {s r : Bytes}
    (hFilled : fields.Filled forms before slots)
    (h : fields.member? key slots s = some (.ok (filled, r))) :
    ∃ space value, Space s (58 :: space) ∧ Space space value ∧ Loose value r ∧
      fields.Filled forms (before ++ [⟨key, value, r⟩]) filled := by
  induction fields with
  | nil => simp [Fields.member?] at h
  | cons name presence reader rest ih =>
      obtain ⟨slot, slots⟩ := slots
      obtain ⟨hReads, hRest⟩ := hRead
      obtain ⟨hSlot, hSlots⟩ := hFilled
      rw [Fields.names, List.nodup_cons] at hNames
      rw [Fields.member?] at h
      split at h
      · rename_i hName
        subst hName
        -- The slot was free, so no member read before has this key; no later field has it either.
        split at h
        · cases h
        · rename_i a u hFill
          cases h
          obtain ⟨rfl, space, value, hColon, hSpace, hForm⟩ := fillSlot_sound hReads hFill
          have hNone : named before key = [] := hSlot
          have hSpan : named (before ++ [⟨key, value, r⟩]) key = [⟨value, r⟩] := by
            rw [named_append, named_same, hNone, List.nil_append]
          exact ⟨space, value, hColon, hSpace, hReads.loose hForm, ⟨⟨value, r⟩, hSpan, hForm⟩,
            hSlots.other hNames.1 ⟨value, r⟩⟩
      · rename_i hName
        split at h
        · cases h
        · cases h
        · rename_i others u hLater
          cases h
          obtain ⟨space, value, hColon, hSpace, hValue, hFilled⟩ :=
            ih hRest hNames.2 hSlots hLater
          refine ⟨space, value, hColon, hSpace, hValue, ?_, hFilled⟩
          rw [named_append, named_other hName, List.append_nil]
          exact hSlot

/-- Whatever members are read, they stand in the input, and the slots hold what they write. -/
theorem Fields.members_sound (hRead : fields.Read forms) (hNames : fields.names.Nodup)
    {before : List Member} {first : Bool} {slots filled : Slots types} {s r : Bytes}
    (hFilled : fields.Filled forms before slots)
    (h : fields.members first slots s = .ok (filled, r)) :
    ∃ members, Sequence Entry 125 first s members r ∧
      fields.Filled forms (before ++ members) filled := by
  fun_induction Fields.members fields first slots s generalizing before with
  | case1 => cases h
  | case2 first slots s u hNext =>
      cases h
      exact ⟨[], .close first s r (nextMember_sound hNext), by rwa [List.append_nil]⟩
  | case3 => cases h
  | case4 => cases h
  | case5 first slots s k hNext key after hKey filled' w hMember ih =>
      obtain ⟨start, hComma, hOpen⟩ := nextMember_sound hNext
      obtain ⟨space, value, hColon, hSpace, hValue, hFilled'⟩ :=
        Fields.member?_sound hRead hNames hFilled hMember
      have hEntry : Entry start ⟨key, value, w⟩ w := .member start after space value w (34 :: k) key
        hOpen (.text k after key (string_eq_ok_iff.1 hKey)) hColon hSpace hValue
      obtain ⟨members, hMembers, hLater⟩ := ih hFilled' h
      refine ⟨_, .item first s start w r _ members hComma hEntry hMembers, ?_⟩
      rwa [List.append_assoc] at hLater
  | case6 => cases h
  | case7 => cases h
  | case8 first slots s k hNext key after hKey hMember space hColon w hSkip ih =>
      obtain ⟨start, hComma, hOpen⟩ := nextMember_sound hNext
      obtain ⟨value, hSpace, hValue⟩ := skip_sound hSkip
      have hEntry : Entry start ⟨key, value, w⟩ w := .member start after space value w (34 :: k) key
        hOpen (.text k after key (string_eq_ok_iff.1 hKey)) (colon_eq_ok_iff.1 hColon) hSpace hValue
      have hFilled' := hFilled.other (Fields.member?_eq_none_iff.1 hMember) ⟨value, w⟩
      obtain ⟨members, hMembers, hLater⟩ := ih hFilled' h
      refine ⟨_, .item first s start w r _ members hComma hEntry hMembers, ?_⟩
      rwa [List.append_assoc] at hLater

/-- Slots that are empty in the end stand for the defaults of their fields. -/
theorem Fields.finish_sound {members : List Member} {slots : Slots types} {values : Values types}
    (hFilled : fields.Filled forms members slots) (h : fields.finish slots = .ok values) :
    fields.FromMembers forms members values := by
  induction fields with
  | nil => trivial
  | cons name presence reader rest ih =>
      obtain ⟨slot, slots⟩ := slots
      obtain ⟨hSlot, hSlots⟩ := hFilled
      cases slot with
      | some a =>
          obtain ⟨others, hRest, rfl⟩ := map_eq_ok (e := rest.finish slots) h
          exact ⟨.inl hSlot, ih hSlots hRest⟩
      | none =>
          cases presence with
          | required => cases h
          | optional a inLists =>
              obtain ⟨others, hRest, rfl⟩ := map_eq_ok (e := rest.finish slots) h
              exact ⟨.inr ⟨hSlot, inLists, rfl⟩, ih hSlots hRest⟩

/-! ## Completeness of objects -/

/-- The slots hold the values of the fields that the members read so far name. -/
def Fields.Holds {types : List Type} (fields : Fields types) (members : List Member)
    (values : Values types) (slots : Slots types) : Prop :=
  match fields, values, slots with
  | .nil, _, _ => True
  | .cons name _ _ rest, (a, values), (slot, slots) =>
    slot = (if named members name = [] then none else some a) ∧ rest.Holds members values slots

theorem Fields.holds_empty {types : List Type} (fields : Fields types) (values : Values types) :
    fields.Holds [] values (Slots.empty types) := by
  induction fields with
  | nil => trivial
  | cons name presence reader rest ih => exact ⟨rfl, ih values.2⟩

theorem Fields.Holds.other {before : List Member} {values : Values types} {slots : Slots types}
    (h : fields.Holds before values slots) {key : String} (hKey : key ∉ fields.names)
    (span : Span) : fields.Holds (before ++ [⟨key, span⟩]) values slots := by
  induction fields with
  | nil => trivial
  | cons name presence reader rest ih =>
      obtain ⟨hSlot, hRest⟩ := h
      rw [Fields.names, List.mem_cons, not_or] at hKey
      obtain ⟨hName, hNames⟩ := hKey
      refine ⟨?_, ih hRest hNames⟩
      rw [named_append, named_other hName, List.append_nil]
      exact hSlot

theorem fillSlot_complete {α : Type} {reader : Reader α} {form : Bytes → α → Bytes → Prop}
    (hReads : Reads reader form) (name : String) {s space value r : Bytes} {a : α}
    (hColon : Space s (58 :: space)) (hSpace : Space space value) (hForm : form value a r)
    (hEnds : Ends r) : fillSlot name reader none s = .ok (a, r) := by
  simp only [fillSlot, colon_eq_ok_iff.2 hColon]
  exact hReads.complete hSpace hForm hEnds

/-- A member among others that gives its field a value is the only one with its key. -/
theorem Presence.Gives.alone {α : Type} {presence : Presence α} {form : Bytes → α → Bytes → Prop}
    {before after : List Member} {key : String} {span : Span} {a : α}
    (h : presence.Gives form (named (before ++ ⟨key, span⟩ :: after) key) a) :
    named before key = [] ∧ span.Writes form a := by
  have hSplit : named (before ++ ⟨key, span⟩ :: after) key =
      named before key ++ span :: named after key := by
    simp [named]
  rw [hSplit] at h
  rcases h with ⟨only, hOnly, hForm⟩ | ⟨hNone, -⟩
  · rcases List.append_eq_singleton_iff.1 hOnly with ⟨hBefore, hSpan⟩ | ⟨-, hNil⟩
    · obtain ⟨rfl, -⟩ := List.cons.inj hSpan
      exact ⟨hBefore, hForm⟩
    · cases hNil
  · cases (List.append_eq_nil_iff.1 hNone).2

/-- The member of a field is read if no other one before it has its key. -/
theorem Fields.member?_complete (hRead : fields.Read forms) (hNames : fields.names.Nodup)
    {before after : List Member} {key : String} {values : Values types} {slots : Slots types}
    {s space value r : Bytes} (hKey : key ∈ fields.names) (hColon : Space s (58 :: space))
    (hSpace : Space space value) (hEnds : Ends r)
    (hFrom : fields.FromMembers forms (before ++ ⟨key, value, r⟩ :: after) values)
    (hHolds : fields.Holds before values slots) :
    ∃ filled, fields.member? key slots s = some (.ok (filled, r)) ∧
      fields.Holds (before ++ [⟨key, value, r⟩]) values filled := by
  induction fields with
  | nil => cases hKey
  | cons name presence reader rest ih =>
      obtain ⟨slot, slots⟩ := slots
      obtain ⟨a, values⟩ := values
      obtain ⟨hReads, hRest⟩ := hRead
      obtain ⟨hGives, hOthers⟩ := hFrom
      obtain ⟨hSlot, hSlots⟩ := hHolds
      rw [Fields.names, List.nodup_cons] at hNames
      by_cases hName : key = name
      · subst hName
        -- It is the only member with this key, so its slot is still free.
        obtain ⟨hNone, hForm⟩ := hGives.alone
        rw [if_pos hNone] at hSlot
        subst hSlot
        have hFill := fillSlot_complete hReads key hColon hSpace hForm hEnds
        refine ⟨(some a, slots), ?_, ?_, hSlots.other hNames.1 ⟨value, r⟩⟩
        · rw [Fields.member?, if_pos rfl, hFill]
        · rw [named_append, named_same, if_neg (by simp)]
      · rw [Fields.names, List.mem_cons] at hKey
        obtain ⟨filled, hLater, hHolds⟩ :=
          ih hRest hNames.2 (hKey.resolve_left hName) hOthers hSlots
        refine ⟨(slot, filled), ?_, ?_, hHolds⟩
        · rw [Fields.member?, if_neg hName, hLater]
        · rw [named_append, named_other hName, List.append_nil]
          exact hSlot

theorem Fields.members_eq (fields : Fields types) (first : Bool) (slots : Slots types)
    (s : Bytes) :
    fields.members first slots s =
      match nextMember first s with
      | .error e => .error e
      | .ok (false, r) => .ok (slots, r)
      | .ok (true, r) =>
        match string r with
        | .error e => .error e
        | .ok (key, r) =>
          match fields.member? key slots r with
          | some (.error e) => .error e
          | some (.ok (slots, r)) => fields.members false slots r
          | none =>
            match colon r with
            | .error e => .error e
            | .ok r =>
              match skip r with
              | .error e => .error e
              | .ok r => fields.members false slots r := by
  rw [Fields.members]
  split <;> rename_i hNext <;> simp only [hNext]
  split <;> rename_i hKey <;> simp only [hKey]
  split <;> rename_i hMember <;> simp only [hMember]
  split <;> rename_i hColon <;> simp only [hColon]
  split <;> rename_i hSkip <;> simp only [hSkip]

/-- The members of an object are read to its end, and the slots hold what it gives. -/
theorem Fields.members_complete (hRead : fields.Read forms) (hNames : fields.names.Nodup)
    {first : Bool} {s r : Bytes} {members : List Member}
    (h : Sequence Entry 125 first s members r) (before : List Member) {values : Values types}
    {slots : Slots types} (hFrom : fields.FromMembers forms (before ++ members) values)
    (hHolds : fields.Holds before values slots) :
    ∃ filled, fields.members first slots s = .ok (filled, r) ∧
      fields.Holds (before ++ members) values filled := by
  induction h generalizing before slots with
  | close first s r hClose =>
      refine ⟨slots, ?_, by rwa [List.append_nil]⟩
      rw [Fields.members_eq, nextMember_close first hClose]
  | item first s start rest r member members hComma hItem hRest ih =>
      have hEnds : Ends rest := hRest.ends (.inr rfl)
      cases hItem with
      | member after space value _ keyStart key hOpen hKey hColon hSpace hValue =>
          cases hKey with
          | text k _ _ hText =>
              have hSplit : before ++ ⟨key, value, rest⟩ :: members =
                  (before ++ [⟨key, value, rest⟩]) ++ members := by simp
              -- Members of fields fill their slots; all others are skipped.
              by_cases hKnown : key ∈ fields.names
              · obtain ⟨filled, hMember, hHolds'⟩ := Fields.member?_complete hRead hNames hKnown
                  hColon hSpace hEnds hFrom hHolds
                rw [hSplit] at hFrom ⊢
                obtain ⟨filled', hLater, hHolds''⟩ := ih _ hFrom hHolds'
                refine ⟨filled', ?_, hHolds''⟩
                rw [Fields.members_eq, nextMember_item hComma hOpen]
                simp only [string_eq_ok_iff.2 hText, hMember, hLater]
              · have hHolds' := hHolds.other hKnown ⟨value, rest⟩
                rw [hSplit] at hFrom ⊢
                obtain ⟨filled', hLater, hHolds''⟩ := ih _ hFrom hHolds'
                refine ⟨filled', ?_, hHolds''⟩
                rw [Fields.members_eq, nextMember_item hComma hOpen]
                simp only [string_eq_ok_iff.2 hText, Fields.member?_eq_none_iff.2 hKnown,
                  colon_eq_ok_iff.2 hColon, skip_complete hSpace hValue hEnds, hLater]

/-- From slots that hold what the members give, all values are taken. -/
theorem Fields.finish_complete {members : List Member} {slots : Slots types}
    {values : Values types} (hFrom : fields.FromMembers forms members values)
    (hHolds : fields.Holds members values slots) : fields.finish slots = .ok values := by
  induction fields with
  | nil => rfl
  | cons name presence reader rest ih =>
      obtain ⟨slot, slots⟩ := slots
      obtain ⟨a, values⟩ := values
      obtain ⟨hGives, hOthers⟩ := hFrom
      obtain ⟨hSlot, hSlots⟩ := hHolds
      have hRest := congrArg (Except.map (a, ·)) (ih hOthers hSlots)
      rcases hGives with ⟨span, hSpan, -⟩ | ⟨hNone, inLists, rfl⟩
      · rw [hSpan, if_neg (by simp)] at hSlot
        subst hSlot
        exact hRest
      · rw [if_pos hNone] at hSlot
        subst hSlot
        exact hRest

/-! ## Lists -/

theorem Sequence.at_close {α : Type} {item : Bytes → α → Bytes → Prop} {t r : Bytes}
    {as : List α} (h : Sequence item 93 false (93 :: t) as r) : as = [] ∧ r = t := by
  have hNext : skipSpace (93 :: t) = 93 :: t := skipSpace_cons (by decide) t
  cases h with
  | close _ _ _ hClose =>
      rw [hClose.skipSpace_cons] at hNext
      exact ⟨rfl, (List.cons.inj hNext).2⟩
  | item _ _ start _ _ _ _ hComma =>
      cases hComma with
      | next _ _ hComma =>
          rw [hComma.skipSpace_cons] at hNext
          exact absurd (List.cons.inj hNext).1 (by decide)

/-- The elements that are read stand in the input up to the end of the list. -/
theorem Fields.elements_sound (hRead : fields.Read forms) {total : String} {count : Nat}
    {s t r : Bytes} {values : Values types}
    (h : fields.elements total count s = .ok (values, t)) (hClose : closeList t = .ok r) :
    ∃ spans, Sequence Element 93 (count = 0) s spans r ∧
      fields.FromElements forms spans values := by
  induction fields generalizing count s with
  | nil =>
      cases h
      exact ⟨[], .close _ t r (closeList_eq_ok_iff.1 hClose), rfl⟩
  | cons name presence reader rest ih =>
      obtain ⟨hReads, hRest⟩ := hRead
      rw [Fields.elements] at h
      split at h
      · cases h
      · rename_i u hNext
        obtain ⟨start, b, v, hComma, hSpace, -⟩ := nextElement_sound hNext
        split at h
        · cases h
        · rename_i a w hValue
          obtain ⟨value, hSpace', hForm⟩ := hReads.sound hValue
          split at h
          · cases h
          · rename_i others x hLater
            cases h
            obtain ⟨spans, hSpans, hOthers⟩ := ih hRest hLater
            have hElement : Element start ⟨value, w⟩ w :=
              .value start value w (hSpace.trans hSpace') (hReads.loose hForm)
            exact ⟨⟨value, w⟩ :: spans, .item _ s start w r _ spans hComma hElement hSpans,
              hForm, hOthers⟩
      · rename_i u hNext
        -- The list ends early: what is left of it can only be its closing bracket.
        obtain ⟨v, hSpace, rfl⟩ := nextElement_sound hNext
        split at h
        · rename_i a
          split at h
          · cases h
          · rename_i others x hLater
            cases h
            obtain ⟨spans, hSpans, hOthers⟩ := ih hRest hLater
            obtain ⟨rfl, rfl⟩ := Sequence.at_close hSpans
            exact ⟨[], .close _ s r hSpace, rfl, hOthers⟩
        · cases h

/-- Where a list gives all fields, they are read up to its closing bracket. -/
theorem Fields.elements_complete (hRead : fields.Read forms) (total : String) (count : Nat)
    {s r : Bytes} {spans : List Span} {values : Values types}
    (h : Sequence Element 93 (count = 0) s spans r)
    (hFrom : fields.FromElements forms spans values) :
    ∃ t, fields.elements total count s = .ok (values, t) ∧ closeList t = .ok r := by
  induction fields generalizing count s spans with
  | nil =>
      obtain rfl : spans = [] := hFrom
      cases h with
      | close _ _ _ hClose => exact ⟨s, rfl, closeList_eq_ok_iff.2 hClose⟩
  | cons name presence reader rest ih =>
      obtain ⟨a, values⟩ := values
      obtain ⟨hReads, hRest⟩ := hRead
      cases h with
      | close _ _ _ hClose =>
          obtain ⟨rfl, hOthers⟩ := hFrom
          obtain ⟨t, hLater, hEnd⟩ :=
            ih hRest (count + 1) (.close _ (93 :: r) r (.none _)) hOthers
          refine ⟨t, ?_, hEnd⟩
          rw [Fields.elements, nextElement_close _ hClose]
          simp only [hLater]
      | item _ _ start w _ span spans hComma hItem hSpans =>
          obtain ⟨hForm, hOthers⟩ := hFrom
          obtain ⟨t, hLater, hEnd⟩ := ih hRest (count + 1) hSpans hOthers
          refine ⟨t, ?_, hEnd⟩
          cases hItem with
          | value value _ hSpace hValue =>
              have hEnds : Ends w := hSpans.ends (.inl rfl)
              obtain ⟨b, u, rfl, hStarts⟩ := hValue.starts
              have hClose : b ≠ 93 := hStarts.ne (by decide)
              rw [Fields.elements, nextElement_item hComma hSpace hStarts.not_blank hClose]
              simp only [hReads.complete (.none _) hForm hEnds, hLater]

/-! ## Records -/

/-- What is read as a record is an object or a list that gives the values of its fields. -/
theorem Fields.read_sound {title : String} (hRead : fields.Read forms)
    (hNames : fields.names.Nodup) {s r : Bytes} {values : Values types}
    (h : fields.read title s = .ok (values, r)) :
    ∃ t, Space s t ∧ Recorded fields forms t values r := by
  unfold Fields.read at h
  split at h
  · cases h
  · rename_i b t hSkip
    obtain ⟨hSpace, -⟩ := skipSpace_eq_cons_iff.1 hSkip
    split at h
    · rename_i hOpen
      split at h
      · cases h
      · rename_i found u hElements
        split at h
        · cases h
        · rename_i v hClose
          cases h
          obtain ⟨spans, hSpans, hFrom⟩ := Fields.elements_sound hRead hElements hClose
          have hList : ListOf (b :: t) spans r := hOpen ▸ .list t r spans hSpans
          exact ⟨b :: t, hSpace, .list _ r spans values hList hFrom⟩
    · split at h
      · rename_i hOpen
        split at h
        · cases h
        · rename_i slots u hMembers
          split at h
          · cases h
          · rename_i found hFinish
            cases h
            obtain ⟨members, hSequence, hFilled⟩ :=
              Fields.members_sound hRead hNames (fields.filled_empty forms) hMembers
            have hFrom := Fields.finish_sound hFilled hFinish
            have hObject : ObjectOf (b :: t) members r := hOpen ▸ .object t r members hSequence
            exact ⟨b :: t, hSpace, .object _ r members values hObject hFrom⟩
      · exact absurd h mismatch_ne_ok

/-- Both ways to write a record are read. -/
theorem Fields.read_complete (title : String) (hRead : fields.Read forms)
    (hNames : fields.names.Nodup) {s t r : Bytes} {values : Values types} (hSpace : Space s t)
    (hForm : Recorded fields forms t values r) : fields.read title s = .ok (values, r) := by
  cases hForm with
  | object _ members _ hObject hFrom =>
      cases hObject with
      | object u _ _ hMembers =>
          obtain ⟨slots, hSlots, hHolds⟩ := Fields.members_complete hRead hNames hMembers
            [] hFrom (fields.holds_empty values)
          have hFinish : fields.finish slots = .ok values := Fields.finish_complete hFrom hHolds
          have hList : (123 : UInt8) ≠ 91 := by decide
          rw [Fields.read, hSpace.skipSpace_cons]
          simp only [if_neg hList, if_true, hSlots, hFinish]
  | list _ spans _ hList hFrom =>
      cases hList with
      | list u _ _ hSpans =>
          obtain ⟨v, hElements, hClose⟩ := Fields.elements_complete hRead
            (title ++ " with " ++ toString fields.count ++ " elements") 0 hSpans hFrom
          rw [Fields.read, hSpace.skipSpace_cons]
          simp only [if_true, hElements, hClose]

/-- A record reader accepts exactly the objects and lists that give all its fields. -/
theorem reads_record (title : String) (hRead : fields.Read forms) (hNames : fields.names.Nodup) :
    Reads (record title fields) (Recorded fields forms) where
  sound h := Fields.read_sound hRead hNames h
  complete hSpace hForm _ := Fields.read_complete title hRead hNames hSpace hForm
  loose hForm := by
    cases hForm with
    | object _ members _ hObject => exact hObject.loose
    | list _ spans _ hList => exact hList.loose

end JobLog.Json
