import JobLog.Pipeline.Memory
import JobLog.Proofs.Json.Rendering
import JobLog.Proofs.Part.Format
import JobLog.Proofs.Pipeline.Handling
import JobLog.Supervisor.Live

/-!
# Store and viewers see the same text

The content of a part is stored as it is written in the message, without its NUL characters, and it
reaches viewers inside two layers of JSON: the data of an announcement is the text of an object, and
the request that carries it has this text in a string. Both layers are undone by decoding twice:
`handle_faithful` says so for the systems in memory and for the live ones, whatever characters the
content has.
-/

namespace JobLog

open Json (Bytes Space Value)

/-! ## Announcements as JSON -/

/-- A text is JSON for a value. -/
def Decodes (text : String) (v : Value) : Prop :=
  Value.parse (Text.encode text) = .ok v

/-- Ids and numbers of parts are written and read without loss. -/
theorem plain_word (depth : Nat) (x : Int64) : (Value.integer x.toInt).Plain (depth + 1) := by
  have hHigh : x.toInt < 2 ^ 63 := x.toInt_lt
  exact .integer x.minValue_le_toInt (Int.lt_trans hHigh (by decide))

/-- The data of an announcement decode to the four members of the part that viewers see. -/
theorem Part.decodes_data (part : Part) :
    Decodes part.data (.object
      [("id", .integer part.job.toInt), ("number", .integer part.number.toInt),
        ("_log", .text part.content), ("final", .flag part.isFinal)]) := by
  refine Value.parse_render (.object ?_)
  intro member hmember
  simp only [List.mem_cons, List.not_mem_nil, or_false] at hmember
  rcases hmember with rfl | rfl | rfl | rfl
  · exact plain_word _ _
  · exact plain_word _ _
  · exact .text _
  · exact .flag _

/-- The body of a request decodes to the announcement, its data as a string. -/
theorem Pusher.Client.decodes_body (a : Announcement) :
    Decodes (Pusher.Client.body a) (.object
      [("name", .text a.event), ("channels", .list [.text a.channel]),
        ("data", .text a.data)]) := by
  refine Value.parse_render (.object ?_)
  intro member hmember
  simp only [List.mem_cons, List.not_mem_nil, or_false] at hmember
  rcases hmember with rfl | rfl | rfl
  · exact .text _
  · refine .list ?_
    intro v hv
    rw [List.mem_singleton.1 hv]
    exact .text _
  · exact .text _

/-- The body of a request is that of its announcement. -/
theorem Pusher.Client.request_body {client : Pusher.Client} {now : Int} {a : Announcement}
    {request : Pusher.Request} (h : client.request now a = .ok request) :
    request.body = Pusher.Client.body a := by
  unfold Pusher.Client.request at h
  dsimp only at h
  split at h
  · cases h
  · split at h <;> cases h
    rfl

/-! ## What the systems are asked -/

/-- A network with everything it was asked to do, in order. -/
structure Logged (σ : Type) where
  state : σ
  statements : List Statement
  requests : List Pusher.Request

/-- A network that keeps what it is asked to do. -/
def Network.logged {σ : Type} (n : Network σ) : Network (Logged σ) where
  reach := n.reach
  execute statement s :=
    let reply := n.execute statement s.state
    ⟨reply.result, reply.nanos, reply.wall,
      { s with state := reply.state, statements := s.statements ++ [statement] }⟩
  post request s :=
    let reply := n.post request s.state
    ⟨reply.result, reply.nanos, reply.wall,
      { s with state := reply.state, requests := s.requests ++ [request] }⟩
  now s := n.now s.state
  dial := n.dial

namespace World

variable {part : Part} {wall : Moment}

/-- In memory a part becomes one row and one announcement. -/
theorem Delivers.memory {latency : Latency} {s t : Memory}
    (h : Delivers (Memory.systems latency) part wall s t) :
    ∃ log id, t.store.rows = s.store.rows ++ [⟨Task.entry part log wall, id⟩] ∧
      t.board.announced = s.board.announced ++ [Task.announcement part] := by
  cases h with
  | all found inserted published log row hfind hlog hinsert hrow hpublish hdone hstate =>
      subst hfind hinsert hpublish hstate
      simp only [Memory.systems, Store.find, Store.insert, Board.publish] at hrow hdone ⊢
      split at hrow
      · cases hrow
      · split at hdone
        · cases hdone
        · exact ⟨log, _, rfl, rfl⟩

/-- The live systems store a part with one statement and announce it with one request. -/
theorem Delivers.logged {σ : Type} {n : Network σ} {client : Pusher.Client} {s t : Logged σ}
    (h : Delivers (n.logged.systems client) part wall s t) :
    ∃ log date request, t.statements =
        s.statements ++ [.find part.job, .insert (Task.entry part log date)] ∧
      t.requests = s.requests ++ [request] ∧
      request.body = Pusher.Client.body (Task.announcement part) := by
  cases h with
  | all found inserted published log row hfind hlog hinsert hrow hpublish hdone hstate =>
      subst hfind hinsert hpublish hstate
      simp only [Network.systems, Network.logged] at hdone ⊢
      split at hdone
      · cases hdone
      · rename_i request hrequest
        exact ⟨log, (n.execute (.find part.job) s.state).wall wall, request, by simp, rfl,
          Pusher.Client.request_body hrequest⟩

end World

/-! ## Faithful handling -/

/-- A message body is a part as it is written, apart from white space around it. -/
def Part.WrittenIn (raw : Part) (body : Bytes) : Prop :=
  ∃ s r, Space body s ∧ Part.Written s raw r ∧ Space r []

theorem Part.writtenIn_of_parse {part : Part} {body : Bytes} (h : Part.parse body = .ok part) :
    ∃ raw : Part, raw.WrittenIn body ∧ part = { raw with content := sanitize raw.content } := by
  obtain ⟨raw, hdecode, rfl⟩ := Json.map_eq_ok h
  obtain ⟨s, r, hspace, hform, hend⟩ := Part.reads_reader.decode_eq_ok_iff.1 hdecode
  exact ⟨raw, ⟨s, r, hspace, hform, hend⟩, rfl⟩

/-- What is stored and what viewers get of a part: the content is stored without its NUL characters,
and the data decode to the part with the content as it is stored. -/
structure Part.Faithful (raw : Part) (stored : Entry) (data : String) : Prop where
  number : stored.number = raw.number
  isFinal : stored.isFinal = raw.isFinal
  content : stored.content.toList = raw.content.toList.filter (· ≠ '\x00')
  data : Decodes data (.object
    [("id", .integer raw.job.toInt), ("number", .integer raw.number.toInt),
      ("_log", .text stored.content), ("final", .flag raw.isFinal)])

theorem Part.faithful (raw : Part) (log : Int64) (wall : Moment) :
    raw.Faithful (Task.entry { raw with content := sanitize raw.content } log wall)
      ({ raw with content := sanitize raw.content } : Part).data where
  number := rfl
  isFinal := rfl
  content := String.toList_ofList
  data := Part.decodes_data _

/-- A success is told apart by its value alone, without comparing errors. -/
theorem eq_ok_of_toOption {ε α : Type} {x : Except ε α} {a : α} (h : x.toOption = some a) :
    x = .ok a := by
  cases x with
  | error _ => cases h
  | ok _ => exact congrArg _ (Option.some.inj h)

/-- Every message that is handled with success is a part, and store and viewers get the same text of
it, whatever characters it has. In memory the part becomes one row and one announcement on its job's
channel; with the live systems it becomes one insertion, after the lookup of its log, and one
request, whose body decodes to the announcement and whose data decode once more. -/
theorem handle_faithful :
    (∀ {latency : Latency} {worker : Nat} {body : Bytes} {w : World Memory} {done : Processed},
      (w.handle (Memory.systems latency) worker body).1 = .ok done →
      ∃ (raw : Part) (row : Row) (data : String),
        raw.WrittenIn body ∧ raw.Faithful row.toEntry data ∧
        (w.handle (Memory.systems latency) worker body).2.systems.store.rows =
          w.systems.store.rows ++ [row] ∧
        (w.handle (Memory.systems latency) worker body).2.systems.board.announced =
          w.systems.board.announced ++
            [⟨"job-" ++ toString raw.job.toInt, "job:log", data⟩]) ∧
    ∀ {σ : Type} {n : Network σ} {client : Pusher.Client} {worker : Nat} {body : Bytes}
      {w : World (Logged σ)} {done : Processed},
      (w.handle (n.logged.systems client) worker body).1 = .ok done →
      ∃ (raw : Part) (entry : Entry) (request : Pusher.Request) (data : String),
        raw.WrittenIn body ∧ raw.Faithful entry data ∧
        (w.handle (n.logged.systems client) worker body).2.systems.statements =
          w.systems.statements ++ [.find raw.job, .insert entry] ∧
        (w.handle (n.logged.systems client) worker body).2.systems.requests =
          w.systems.requests ++ [request] ∧
        Decodes request.body (.object
          [("name", .text "job:log"),
            ("channels", .list [.text ("job-" ++ toString raw.job.toInt)]),
            ("data", .text data)]) := by
  refine ⟨?_, ?_⟩
  · intro latency worker body w done h
    obtain ⟨part, hparse, hdelivers⟩ := World.handle_eq_ok h
    obtain ⟨raw, hwritten, rfl⟩ := Part.writtenIn_of_parse hparse
    obtain ⟨log, id, hrows, hannounced⟩ := hdelivers.memory
    exact ⟨raw, _, _, hwritten, raw.faithful log w.wall, hrows, hannounced⟩
  -- The request is one layer around the announcement, whose data are a layer of their own.
  · intro σ n client worker body w done h
    obtain ⟨part, hparse, hdelivers⟩ := World.handle_eq_ok h
    obtain ⟨raw, hwritten, rfl⟩ := Part.writtenIn_of_parse hparse
    obtain ⟨log, date, request, hstatements, hrequests, hbody⟩ := hdelivers.logged
    refine ⟨raw, _, request, _, hwritten, raw.faithful log date, hstatements, hrequests, ?_⟩
    rw [hbody]
    exact Pusher.Client.decodes_body _

/-- `[1,2,"a\u0000\"",true]` is handled with success: in memory, and over a network that accepts
everything, with `[::1]` as the server that viewers are connected to. -/
theorem handle_faithful_escaped :
    let body : Bytes := [91, 49, 44, 50, 44, 34, 97, 92, 117, 48, 48, 48, 48, 92, 34, 34, 44, 116,
      114, 117, 101, 93]
    let memory : World Memory := .fresh ⟨⟨[(1, 7)], [], 0, none, none⟩, .empty⟩
    let network : Network Unit :=
      { reach := fun _ => .ok ()
        execute := fun _ s => ⟨.ok [some 7], 0, id, s⟩
        post := fun _ s => ⟨.ok ⟨200, none, []⟩, 0, id, s⟩
        now := fun _ => 0
        dial := fun c => .refused c (.connection "") }
    let client : Pusher.Client := ⟨"http://[::1]", "1", "k", "s"⟩
    let live : World (Logged Unit) := ⟨⟨(), [], []⟩, .new 0, [], 0, ⟨0, 0⟩⟩
    (∃ done, (memory.handle (Memory.systems .zero) 0 body).1 = .ok done ∧
      ∃ (raw : Part) (row : Row) (data : String), raw.WrittenIn body ∧
        raw.Faithful row.toEntry data ∧
        (memory.handle (Memory.systems .zero) 0 body).2.systems.store.rows = [row]) ∧
    ∃ done, (live.handle (network.logged.systems client) 0 body).1 = .ok done ∧
      ∃ (raw : Part) (entry : Entry) (data : String), raw.WrittenIn body ∧
        raw.Faithful entry data ∧
        (live.handle (network.logged.systems client) 0 body).2.systems.statements =
          [.find raw.job, .insert entry] := by
  intro body memory network client live
  have hMemory : (memory.handle (Memory.systems .zero) 0 body).1 = .ok ⟨1, 7, 1, 2, true⟩ :=
    eq_ok_of_toOption (by decide +kernel)
  have hLive : (live.handle (network.logged.systems client) 0 body).1 = .ok ⟨7, 7, 1, 2, true⟩ :=
    eq_ok_of_toOption (by decide +kernel)
  refine ⟨⟨_, hMemory, ?_⟩, _, hLive, ?_⟩
  · obtain ⟨raw, row, data, hwritten, hfaithful, hrows, _⟩ := handle_faithful.1 hMemory
    exact ⟨raw, row, data, hwritten, hfaithful, hrows⟩
  · obtain ⟨raw, entry, request, data, hwritten, hfaithful, hstatements, _⟩ :=
      handle_faithful.2 hLive
    exact ⟨raw, entry, data, hwritten, hfaithful, hstatements⟩

end JobLog
