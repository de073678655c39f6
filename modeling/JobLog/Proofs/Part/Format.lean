import JobLog.Part
import JobLog.Proofs.Json.Records

/-!
# The format of message bodies

A body is a record with the fields `id`, `number`, `log`, `final` and `uuid`. `Part.Written` is its
format in terms of the grammar alone: an object with these members among any others, in any order,
or a list of four or five elements. `Part.parse` accepts exactly the bodies of this format and
returns what they write, without the NUL characters of the content (`Part.parse_eq_ok_iff`).
-/

namespace JobLog

open Json (Bytes Space Member Span Textual Truth Nullable)

/-- An integer that a 64-bit word holds. -/
def Word (s : Bytes) (x : Int64) (r : Bytes) : Prop :=
  Json.Integer s x.toInt r

/-- Exactly one member has the key, and it writes the value. -/
def Once {α : Type} (members : List Member) (key : String) (form : Bytes → α → Bytes → Prop)
    (a : α) : Prop :=
  ∃ span, Json.named members key = [span] ∧ span.Writes form a

/-- The members of an object write a part; those with other keys do not matter. -/
structure Part.OfMembers (members : List Member) (part : Part) : Prop where
  job : Once members "id" Word part.job
  number : Once members "number" Word part.number
  content : Once members "log" Textual part.content
  isFinal : Once members "final" Truth part.isFinal
  uuid : Once members "uuid" (Nullable Textual) part.uuid ∨
    Json.named members "uuid" = [] ∧ part.uuid = none

/-- The elements of a list write a part, in the order of its fields. -/
inductive Part.OfElements : List Span → Part → Prop where
  | four (job number content isFinal : Span) (part : Part) (hJob : job.Writes Word part.job)
      (hNumber : number.Writes Word part.number) (hContent : content.Writes Textual part.content)
      (hFinal : isFinal.Writes Truth part.isFinal) (hUuid : part.uuid = none) :
      Part.OfElements [job, number, content, isFinal] part
  | five (job number content isFinal uuid : Span) (part : Part) (hJob : job.Writes Word part.job)
      (hNumber : number.Writes Word part.number) (hContent : content.Writes Textual part.content)
      (hFinal : isFinal.Writes Truth part.isFinal)
      (hUuid : uuid.Writes (Nullable Textual) part.uuid) :
      Part.OfElements [job, number, content, isFinal, uuid] part

/-- A part as a message body writes it, its content as it stands. -/
inductive Part.Written : Bytes → Part → Bytes → Prop where
  | object (s r : Bytes) (members : List Member) (part : Part)
      (hObject : Json.ObjectOf s members r) (hFields : Part.OfMembers members part) :
      Part.Written s part r
  | list (s r : Bytes) (elements : List Span) (part : Part) (hList : Json.ListOf s elements r)
      (hFields : Part.OfElements elements part) : Part.Written s part r

/-! ## The readers of the fields -/

theorem reads_word : Json.Reads word Word where
  sound hRead := by
    have hReads := (Json.reads_integer wordRange (by decide) (by decide)).map Int64.ofInt
    obtain ⟨t, hSpace, v, ⟨hForm, hLow, hHigh⟩, rfl⟩ := hReads.sound hRead
    refine ⟨t, hSpace, ?_⟩
    rw [Word, Int64.toInt_ofInt_of_le hLow (Int.lt_of_le_of_lt hHigh (by decide))]
    exact hForm
  complete {s t r x} hSpace hForm hEnds := by
    have hReads := (Json.reads_integer wordRange (by decide) (by decide)).map Int64.ofInt
    have hRange : wordRange.low ≤ x.toInt ∧ x.toInt ≤ wordRange.high :=
      ⟨x.minValue_le_toInt, x.toInt_le⟩
    exact hReads.complete hSpace ⟨x.toInt, ⟨hForm, hRange⟩, Int64.ofInt_toInt x⟩ hEnds
  loose hForm := Json.Integer.loose hForm

/-- The values of a part's fields. -/
def Part.values (part : Part) : Json.Values [Int64, Int64, String, Bool, Option String] :=
  (part.job, part.number, part.content, part.isFinal, part.uuid, ())

/-- The forms of the fields. -/
def Part.forms : Json.Forms [Int64, Int64, String, Bool, Option String] :=
  (Word, Word, Textual, Truth, Nullable Textual, ())

theorem Part.reads_fields : Part.fields.Read Part.forms :=
  ⟨reads_word, reads_word, Json.reads_text _, Json.reads_flag,
    Json.reads_nullable_text _, trivial⟩

theorem Part.names_nodup : Part.fields.names.Nodup := by
  decide

/-! ## The format -/

theorem Json.Presence.gives_required {α : Type} {members : List Member} {key : String}
    {form : Bytes → α → Bytes → Prop} {a : α} :
    Json.Presence.required.Gives form (Json.named members key) a ↔ Once members key form a := by
  constructor
  · rintro (hOnce | ⟨-, inLists, hPresence⟩)
    · exact hOnce
    · cases hPresence
  · exact .inl

theorem Part.fromMembers_iff {members : List Member} {part : Part} :
    Part.fields.FromMembers Part.forms members part.values ↔ Part.OfMembers members part := by
  constructor
  · rintro ⟨hJob, hNumber, hContent, hFinal, hUuid, -⟩
    refine ⟨Json.Presence.gives_required.1 hJob, Json.Presence.gives_required.1 hNumber,
      Json.Presence.gives_required.1 hContent, Json.Presence.gives_required.1 hFinal, ?_⟩
    rcases hUuid with hOnce | ⟨hNone, inLists, hAbsent⟩
    · exact .inl hOnce
    · exact .inr ⟨hNone, (Json.Presence.optional.inj hAbsent).1.symm⟩
  · rintro ⟨hJob, hNumber, hContent, hFinal, hUuid⟩
    refine ⟨Json.Presence.gives_required.2 hJob, Json.Presence.gives_required.2 hNumber,
      Json.Presence.gives_required.2 hContent, Json.Presence.gives_required.2 hFinal, ?_, trivial⟩
    rcases hUuid with hOnce | ⟨hNone, hAbsent⟩
    · exact .inl hOnce
    · exact .inr ⟨hNone, true, congrArg (Json.Presence.optional · true) hAbsent.symm⟩

theorem Part.fromElements_iff {elements : List Span} {part : Part} :
    Part.fields.FromElements Part.forms elements part.values ↔ Part.OfElements elements part := by
  constructor
  · intro h
    match elements with
    | [] => cases h.1
    | [a] => cases h.2.1
    | [a, b] => cases h.2.2.1
    | [a, b, c] => cases h.2.2.2.1
    | [a, b, c, d] =>
        obtain ⟨hJob, hNumber, hContent, hFinal, hAbsent, -⟩ := h
        have hNone : none = part.uuid := (Json.Presence.optional.inj hAbsent).1
        exact .four a b c d _ hJob hNumber hContent hFinal hNone.symm
    | [a, b, c, d, e] =>
        obtain ⟨hJob, hNumber, hContent, hFinal, hUuid, -⟩ := h
        exact .five a b c d e _ hJob hNumber hContent hFinal hUuid
    | _ :: _ :: _ :: _ :: _ :: _ :: _ => cases h.2.2.2.2.2
  · intro h
    cases h with
    | four a b c d _ hJob hNumber hContent hFinal hUuid =>
        have hAbsent := congrArg (Json.Presence.optional · true) hUuid.symm
        exact ⟨hJob, hNumber, hContent, hFinal, hAbsent, rfl⟩
    | five a b c d e _ hJob hNumber hContent hFinal hUuid =>
        exact ⟨hJob, hNumber, hContent, hFinal, hUuid, rfl⟩

/-- The reader of message bodies accepts exactly their format. -/
theorem Part.reads_reader : Json.Reads Part.reader Part.Written where
  sound hRead := by
    have hReads := Json.reads_record "struct LogPartPayload" Part.reads_fields Part.names_nodup
    obtain ⟨values, hRecord, rfl⟩ := Json.Reader.map_read_eq_ok_iff.1 hRead
    obtain ⟨t, hSpace, hForm⟩ := hReads.sound hRecord
    obtain ⟨part, rfl⟩ : ∃ part : Part, values = part.values := by
      obtain ⟨job, number, content, isFinal, uuid, ⟨⟩⟩ := values
      exact ⟨⟨job, number, content, isFinal, uuid⟩, rfl⟩
    refine ⟨t, hSpace, ?_⟩
    show Part.Written t part _
    cases hForm with
    | object _ members _ hObject hFields =>
        exact .object t _ members part hObject (Part.fromMembers_iff.1 hFields)
    | list _ elements _ hList hFields =>
        exact .list t _ elements part hList (Part.fromElements_iff.1 hFields)
  complete {s t r part} hSpace hForm hEnds := by
    have hReads := Json.reads_record "struct LogPartPayload" Part.reads_fields Part.names_nodup
    have hRecorded : Json.Recorded Part.fields Part.forms t part.values r := by
      cases hForm with
      | object _ members _ hObject hFields =>
          exact .object t r members _ hObject (Part.fromMembers_iff.2 hFields)
      | list _ elements _ hList hFields =>
          exact .list t r elements _ hList (Part.fromElements_iff.2 hFields)
    exact Json.Reader.map_read_eq_ok_iff.2 ⟨_, hReads.complete hSpace hRecorded hEnds, rfl⟩
  loose hForm := by
    cases hForm with
    | object _ members _ hObject => exact hObject.loose
    | list _ elements _ hList => exact hList.loose

/-- A body is parsed exactly if, apart from white space around it, it is written in the format of
parts. The part is then the one it writes, with all characters of its content but the NUL characters,
in the same order. -/
theorem Part.parse_eq_ok_iff {body : Bytes} {part : Part} :
    Part.parse body = .ok part ↔
      ∃ s raw r, Space body s ∧ Part.Written s raw r ∧ Space r [] ∧
        part = { raw with content := String.ofList (raw.content.toList.filter (· ≠ '\x00')) } := by
  constructor
  · intro h
    obtain ⟨raw, hDecode, rfl⟩ := Json.map_eq_ok h
    obtain ⟨s, r, hSpace, hForm, hEnd⟩ := Part.reads_reader.decode_eq_ok_iff.1 hDecode
    exact ⟨s, raw, r, hSpace, hForm, hEnd, rfl⟩
  · rintro ⟨s, raw, r, hSpace, hForm, hEnd, rfl⟩
    have hDecode := Part.reads_reader.decode_eq_ok_iff.2 ⟨s, r, hSpace, hForm, hEnd⟩
    rw [Part.parse, hDecode]
    rfl

end JobLog
