import JobLog.Proofs.Json.Choices
import JobLog.Proofs.Json.Rendering
import Mathlib.Data.List.Forall2

/-!
# The spellings of a value

A value of a record type is written in more ways than one: the members of its objects in any order
and with other members between them, each object of fields also as the list of them, and white
space wherever it may stand. `Spelled` is the form of all these texts, the one that `Value.render`
writes among them (`Value.Plain.spelled`).

`Restores reader v a` says that `a` is read from every spelling of `v`. It is shown for the scalars
first, and carried from the fields to their record (`Restores.record`): wherever a member stands, it
is the only one with its key, and the members that are no fields have other keys.
-/

namespace JobLog.Json

open Text (encode)

/-! ## Spellings -/

/-- A value without doubles, written in one of many ways. The members of an object stand in any
order among others that have other keys, or as the elements of a list in their own order. -/
inductive Spelled : Bytes → Value → Bytes → Prop where
  | null (r : Bytes) : Spelled (encode "null" ++ r) .null r
  | flag (s r : Bytes) (b : Bool) (hFlag : Truth s b r) : Spelled s (.flag b) r
  | integer (s r : Bytes) (n : Int) (hInteger : Integer s n r) : Spelled s (.integer n) r
  | text (s r : Bytes) (t : String) (hText : Textual s t r) : Spelled s (.text t) r
  | list (s r : Bytes) (items : List Value) (elements : List Span) (hList : ListOf s elements r)
      (hItems : List.Forall₂ (fun element item => Spelled element.start item element.rest)
        elements items) : Spelled s (.list items) r
  | object (s r : Bytes) (fields : List (String × Value)) (members own others : List Member)
      (hObject : ObjectOf s members r) (hOrder : members.Perm (own ++ others))
      (hKeys : own.map Member.key = fields.map Prod.fst)
      (hValues : List.Forall₂
        (fun member field => Spelled member.value.start field.2 member.value.rest) own fields)
      (hOthers : ∀ member ∈ others, member.key ∉ fields.map Prod.fst) :
      Spelled s (.object fields) r
  | fields (s r : Bytes) (fields : List (String × Value)) (elements : List Span)
      (hList : ListOf s elements r)
      (hValues : List.Forall₂ (fun element field => Spelled element.start field.2 element.rest)
        elements fields) : Spelled s (.object fields) r

/-- A whole text spells a value, with white space around it. -/
def Spells (input : Bytes) (v : Value) : Prop :=
  ∃ s r, Space input s ∧ Spelled s v r ∧ Space r []

variable {α : Type} {form : Bytes → α → Bytes → Prop} {s r : Bytes} {v : Value} {depth : Nat}

/-- What spells a value is a value. -/
theorem Spelled.loose (h : Spelled s v r) : Loose s r := by
  cases h with
  | null => exact .null r
  | flag _ _ _ hFlag => exact reads_flag.loose hFlag
  | integer _ _ _ hInteger => exact hInteger.loose
  | text _ _ _ hText => exact (reads_text "").loose hText
  | list _ _ _ _ hList => exact hList.loose
  | object _ _ _ _ _ _ hObject => exact hObject.loose
  | fields _ _ _ _ hList => exact hList.loose

/-! ## What is written in one way -/

/-- The elements of a list, each with its place in the input. -/
theorem Sequence.elements (hLoose : ∀ {s r : Bytes} {a : α}, form s a r → Loose s r)
    {first : Bool} {items : List α} (h : Sequence (Spaced form) 93 first s items r) :
    ∃ elements, Sequence Element 93 first s elements r ∧
      List.Forall₂ (fun element item => form element.start item element.rest) elements items := by
  induction h with
  | close first s r hClose => exact ⟨[], .close first s r hClose, .nil⟩
  | item first s start rest r a items hComma hItem _ ih =>
      obtain ⟨elements, hElements, hForms⟩ := ih
      cases hItem with
      | value value _ _ hSpace hValue =>
          have hElement : Element start ⟨value, rest⟩ rest :=
            .value start value rest hSpace (hLoose hValue)
          exact ⟨⟨value, rest⟩ :: elements,
            .item first s start rest r _ elements hComma hElement hElements, .cons hValue hForms⟩

/-- The members of an object, each with its place in the input. -/
theorem Sequence.members (hLoose : ∀ {s r : Bytes} {a : α}, form s a r → Loose s r)
    {first : Bool} {fields : List (String × α)} (h : Sequence (Keyed form) 125 first s fields r) :
    ∃ members, Sequence Entry 125 first s members r ∧
      members.map Member.key = fields.map Prod.fst ∧
      List.Forall₂ (fun member field => form member.value.start field.2 member.value.rest)
        members fields := by
  induction h with
  | close first s r hClose => exact ⟨[], .close first s r hClose, rfl, .nil⟩
  | item first s start rest r field fields hComma hItem _ ih =>
      obtain ⟨members, hMembers, hKeys, hForms⟩ := ih
      cases hItem with
      | member keyStart colon space value _ key a hOpen hKey hColon hSpace hValue =>
          have hEntry : Entry start ⟨key, value, rest⟩ rest :=
            .member start colon space value rest keyStart key hOpen hKey hColon hSpace
              (hLoose hValue)
          exact ⟨⟨key, value, rest⟩ :: members,
            .item first s start rest r _ members hComma hEntry hMembers,
            congrArg (key :: ·) hKeys, .cons hValue hForms⟩

/-- What is written member by member is one of the spellings. -/
theorem Written.spelled (h : Written depth s v r) : Spelled s v r := by
  induction depth generalizing s v r with
  | zero => exact h.elim
  | succ depth ih =>
      have hLoose {s r : Bytes} {v : Value} (h : Written depth s v r) : Loose s r := (ih h).loose
      cases h with
      | null => exact .null r
      | flag _ _ b hFlag => exact .flag s r b hFlag
      | integer _ _ n hInteger => exact .integer s r n hInteger
      | text _ _ t hText => exact .text s r t hText
      | list u _ items _ hItems =>
          obtain ⟨elements, hElements, hForms⟩ := hItems.elements hLoose
          exact .list _ r items elements (.list u r elements hElements) (hForms.imp fun _ _ => ih)
      | object u _ fields _ hFields =>
          obtain ⟨members, hMembers, hKeys, hForms⟩ := hFields.members hLoose
          refine .object _ r fields members members [] (.object u r members hMembers) ?_ hKeys
            (hForms.imp fun _ _ => ih) nofun
          rw [List.append_nil]

/-- The text of a plain value is one of its spellings. -/
theorem Value.Plain.spelled (h : v.Plain depth) (r : Bytes) : Spelled (encode v.render ++ r) v r :=
  (h.written r).spelled

/-- A plain value is spelled by its own text. -/
theorem Value.Plain.spells (h : v.Plain depth) : Spells (encode v.render) v := by
  refine ⟨encode v.render, [], .none _, ?_, .none _⟩
  have hSpelled := h.spelled []
  rwa [List.append_nil] at hSpelled

/-! ## Finding the fields of an object -/

theorem named_eq_nil_iff {members : List Member} {key : String} :
    named members key = [] ↔ key ∉ members.map Member.key := by
  simp [named, List.filter_eq_nil_iff]

/-- Reordering the members of an object reorders those of each key. -/
theorem named_perm {members others : List Member} (h : members.Perm others) (key : String) :
    (named members key).Perm (named others key) :=
  (h.filter _).map _

/-- Where no two fields are called the same, each is found among the members that write them. -/
theorem named_own {own : List Member} {fields : List (String × α)}
    (hKeys : own.map Member.key = fields.map Prod.fst) (hNames : (fields.map Prod.fst).Nodup)
    (hValues : List.Forall₂ (fun member field => form member.value.start field.2 member.value.rest)
      own fields) :
    ∀ field ∈ fields, ∃ span, named own field.1 = [span] ∧ form span.start field.2 span.rest := by
  induction hValues with
  | nil => exact nofun
  | @cons member first own fields hFirst _ ih =>
      rw [List.map_cons, List.map_cons] at hKeys
      obtain ⟨hKey, hRestKeys⟩ := List.cons.inj hKeys
      rw [List.map_cons, List.nodup_cons] at hNames
      obtain ⟨hFresh, hNames⟩ := hNames
      have hSplit (key : String) : named (member :: own) key = named [member] key ++ named own key :=
        named_append [member] own key
      intro field hField
      rcases List.mem_cons.1 hField with rfl | hField
      · have hRest : named own field.1 = [] := named_eq_nil_iff.2 (hRestKeys ▸ hFresh)
        have hSame : named [member] field.1 = [member.value] := hKey ▸ named_same _ _
        exact ⟨member.value, by rw [hSplit, hSame, hRest, List.append_nil], hFirst⟩
      · obtain ⟨span, hSpan, hForm⟩ := ih hRestKeys hNames field hField
        have hOther : member.key ≠ field.1 := by
          intro h
          exact hFresh (hKey ▸ h ▸ List.mem_map_of_mem hField)
        have hNone : named [member] field.1 = [] := named_other hOther _
        exact ⟨span, by rw [hSplit, hNone, hSpan, List.nil_append], hForm⟩

/-- They are found in any order, and among other members. -/
theorem named_spelled {members own others : List Member} {fields : List (String × α)}
    (hOrder : members.Perm (own ++ others)) (hKeys : own.map Member.key = fields.map Prod.fst)
    (hNames : (fields.map Prod.fst).Nodup)
    (hValues : List.Forall₂ (fun member field => form member.value.start field.2 member.value.rest)
      own fields) (hOthers : ∀ member ∈ others, member.key ∉ fields.map Prod.fst) :
    ∀ field ∈ fields,
      ∃ span, named members field.1 = [span] ∧ form span.start field.2 span.rest := by
  intro field hField
  obtain ⟨span, hSpan, hForm⟩ := named_own hKeys hNames hValues field hField
  have hNone : named others field.1 = [] := by
    rw [named_eq_nil_iff]
    intro hMem
    obtain ⟨member, hMember, hKey⟩ := List.mem_map.1 hMem
    exact hOthers member hMember (hKey ▸ List.mem_map_of_mem hField)
  have hPerm := named_perm hOrder field.1
  rw [named_append, hSpan, hNone, List.append_nil] at hPerm
  exact ⟨span, List.perm_singleton.1 hPerm, hForm⟩

/-! ## Readers of every spelling -/

/-- Whatever spelling of a value is read, this is the result. -/
def Restores (reader : Reader α) (v : Value) (a : α) : Prop :=
  ∃ form, Reads reader form ∧ ∀ s r, Spelled s v r → form s a r

variable {β : Type} {reader : Reader α} {a : α}

/-- A whole text is read as the value that it spells. -/
theorem Restores.decode (h : Restores reader v a) {input : Bytes} (hSpells : Spells input v) :
    decode reader input = .ok a := by
  obtain ⟨form, hReads, hForm⟩ := h
  obtain ⟨s, r, hBefore, hSpelled, hAfter⟩ := hSpells
  exact hReads.decode_eq_ok_iff.2 ⟨s, r, hBefore, hForm s r hSpelled, hAfter⟩

theorem Restores.map (h : Restores reader v a) (f : α → β) : Restores (reader.map f) v (f a) := by
  obtain ⟨form, hReads, hForm⟩ := h
  exact ⟨_, hReads.map f, fun s r hSpelled => ⟨a, hForm s r hSpelled, rfl⟩⟩

/-- A text is read back from every string that writes it. -/
theorem restores_text (expected t : String) : Restores (text expected) (.text t) t := by
  refine ⟨Textual, reads_text expected, fun s r h => ?_⟩
  cases h with
  | text _ _ _ hText => exact hText

theorem restores_flag (b : Bool) : Restores flag (.flag b) b := by
  refine ⟨Truth, reads_flag, fun s r h => ?_⟩
  cases h with
  | flag _ _ _ hFlag => exact hFlag

/-- An integer of the range is read back. -/
theorem restores_integer {range : IntegerRange} (hLow : Int64.minValue.toInt ≤ range.low)
    (hHigh : range.high < UInt64.size) {n : Int} (hn : range.low ≤ n ∧ n ≤ range.high) :
    Restores (integer range) (.integer n) n := by
  refine ⟨_, reads_integer range hLow hHigh, fun s r h => ?_⟩
  cases h with
  | integer _ _ _ hInteger => exact ⟨hInteger, hn⟩

theorem restores_nullable_text (expected : String) (t : Option String) :
    Restores (nullable (text expected)) ((t.map Value.text).getD .null) t := by
  refine ⟨_, reads_nullable_text expected, fun s r h => ?_⟩
  cases t with
  | none =>
      cases h with
      | null => exact .null r
  | some t =>
      cases h with
      | text _ _ _ hText => exact .value s r t hText

/-- A name is read back as what the list gives for it. -/
theorem restores_choice {choices : List (String × α)} {name : String}
    (h : choices.lookup name = some a) : Restores (choice choices) (.text name) a := by
  refine ⟨_, reads_choice choices, fun s r hSpelled => ?_⟩
  cases hSpelled with
  | text _ _ _ hText => exact .name s r name a hText h

/-! ## Records -/

/-- The fields of a record, each read from the member at its place. -/
def Fields.Restore {types : List Type} (fields : Fields types) (members : List (String × Value))
    (values : Values types) : Prop :=
  match fields, members, values with
  | .nil, members, _ => members = []
  | .cons .., [], _ => False
  | .cons name _ reader rest, (key, v) :: members, (a, values) =>
    key = name ∧ Restores reader v a ∧ rest.Restore members values

variable {types : List Type} {fields : Fields types} {members : List (String × Value)}
  {values : Values types}

theorem Fields.Restore.nil : Fields.nil.Restore [] () :=
  rfl

/-- One more field is read back with its member. -/
theorem Fields.Restore.cons {name : String} {presence : Presence α} (hValue : Restores reader v a)
    (hRest : fields.Restore members values) :
    (Fields.cons name presence reader fields).Restore ((name, v) :: members) (a, values) :=
  ⟨rfl, hValue, hRest⟩

theorem Fields.Restore.names (h : fields.Restore members values) :
    members.map Prod.fst = fields.names := by
  induction fields generalizing members with
  | nil =>
      obtain rfl : members = [] := h
      rfl
  | cons name presence reader rest ih =>
      cases members with
      | nil => exact h.elim
      | cons member members =>
          obtain ⟨hName, -, hRest⟩ := h
          rw [List.map_cons, ih hRest, hName]
          rfl

/-- The fields have forms that their readers accept, and every object that has each of them once
and every list of them all gives the values in these forms. -/
theorem Fields.Restore.forms (h : fields.Restore members values) :
    ∃ forms, fields.Read forms ∧
      (∀ found : List Member,
        (∀ field ∈ members, ∃ span, named found field.1 = [span] ∧
          Spelled span.start field.2 span.rest) → fields.FromMembers forms found values) ∧
      ∀ elements : List Span,
        List.Forall₂ (fun element field => Spelled element.start field.2 element.rest)
          elements members → fields.FromElements forms elements values := by
  induction fields generalizing members with
  | nil =>
      obtain rfl : members = [] := h
      refine ⟨(), trivial, fun _ _ => trivial, fun elements hElements => ?_⟩
      cases hElements
      rfl
  | cons name presence reader rest ih =>
      cases members with
      | nil => exact h.elim
      | cons member members =>
          obtain ⟨a, values⟩ := values
          obtain ⟨hName, ⟨form, hReads, hForm⟩, hRest⟩ := h
          obtain ⟨forms, hRead, hMembers, hElements⟩ := ih hRest
          refine ⟨(form, forms), ⟨hReads, hRead⟩, fun found hFound => ⟨?_, ?_⟩, ?_⟩
          · obtain ⟨span, hSpan, hSpelled⟩ := hFound member List.mem_cons_self
            exact .inl ⟨span, hName ▸ hSpan, hForm _ _ hSpelled⟩
          · exact hMembers found fun field hField => hFound field (List.mem_cons_of_mem _ hField)
          · intro elements hAll
            cases hAll with
            | cons hFirst hOthers => exact ⟨hForm _ _ hFirst, hElements _ hOthers⟩

/-- A record is read from every spelling of the object of its fields. -/
theorem Restores.record (title : String) (hNames : fields.names.Nodup)
    (h : fields.Restore members values) :
    Restores (record title fields) (.object members) values := by
  obtain ⟨forms, hRead, hMembers, hElements⟩ := h.forms
  refine ⟨_, reads_record title hRead hNames, fun s r hSpelled => ?_⟩
  cases hSpelled with
  | object _ _ _ found own others hObject hOrder hKeys hValues hOthers =>
      have hNodup : (members.map Prod.fst).Nodup := h.names ▸ hNames
      exact .object s r found values hObject
        (hMembers found (named_spelled hOrder hKeys hNodup hValues hOthers))
  | fields _ _ _ elements hList hValues =>
      exact .list s r elements values hList (hElements elements hValues)

end JobLog.Json
