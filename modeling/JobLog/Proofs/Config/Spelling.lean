import JobLog.Config.Json
import JobLog.Logging.Settings
import JobLog.Proofs.Json.Spelling

/-!
# Settings are read from every spelling

A configuration and the settings of logging are written as JSON and read again. Whatever texts and
numbers they hold, they are read as they were from their own text, and from each other spelling of
it: `parse_spelled`. Each section is a record whose fields are read one by one, so there is one
lemma for each section and one for each kind of field.
-/

namespace JobLog

open Json (Restores Spelled Spells Value)
open Text (encode)

/-! ## Numbers -/

/-- Natural numbers are read back, up to the greatest one of a type. All that is needed of the bound
is that it fits a 64-bit word. -/
theorem restores_whole (name : String) {max n : Nat} (hMax : max < UInt64.size) (h : n ≤ max) :
    Restores (wholeReader name max) (.integer n) n := by
  have hLow : Int64.minValue.toInt ≤ 0 := by decide
  have hRange : (0 : Int) ≤ n ∧ (n : Int) ≤ max := ⟨Int.natCast_nonneg n, Int.ofNat_le.2 h⟩
  have hInteger : Restores (Json.integer ⟨name, 0, max⟩) (.integer n) (n : Int) := by
    refine Json.restores_integer hLow ?_ hRange
    exact Int.ofNat_lt.2 hMax
  exact hInteger.map Int.toNat

/-- So are the words of 16 bits, and in the same way those of 32 and 64 bits. -/
theorem restores_u16 (n : UInt16) : Restores u16Reader (.integer n.toNat) n := by
  have hRead := (restores_whole "u16" (by decide) (Nat.le_pred_of_lt n.toNat_lt)).map UInt16.ofNat
  rwa [UInt16.ofNat_toNat] at hRead

theorem restores_u32 (n : UInt32) : Restores u32Reader (.integer n.toNat) n := by
  have hRead := (restores_whole "u32" (by decide) (Nat.le_pred_of_lt n.toNat_lt)).map UInt32.ofNat
  rwa [UInt32.ofNat_toNat] at hRead

theorem restores_u64 (n : UInt64) : Restores u64Reader (.integer n.toNat) n := by
  have hRead := (restores_whole "u64" (by decide) (Nat.le_pred_of_lt n.toNat_lt)).map UInt64.ofNat
  rwa [UInt64.ofNat_toNat] at hRead

theorem restores_size (n : UInt64) : Restores sizeReader (.integer n.toNat) n := by
  have hRead := (restores_whole "usize" (by decide) (Nat.le_pred_of_lt n.toNat_lt)).map UInt64.ofNat
  rwa [UInt64.ofNat_toNat] at hRead

/-- A number of at most 64 bits is rendered without a point or an exponent. -/
theorem plain_natural {depth n : Nat} (h : n < UInt64.size) :
    (Value.integer n).Plain (depth + 1) := by
  have hLow : Int64.minValue.toInt ≤ 0 := by decide
  exact .integer (Int.le_trans hLow (Int.natCast_nonneg n)) (Int.ofNat_lt.2 h)

/-! ## Sections -/

/-- The section of the queue is read back, member by member. -/
theorem QueueConfig.restores (c : QueueConfig) : Restores reader c.toJson c := by
  have hFields : fields.Restore _ (c.url, c.queue, c.exchange, c.multiplier, ()) :=
    .cons (Json.restores_text _ c.url) <|
    .cons (Json.restores_text _ c.queue) <|
    .cons (Json.restores_text _ c.exchange) <|
    .cons (restores_u16 c.multiplier) .nil
  exact (Restores.record "struct BrokerConfig" (by decide) hFields).map _

/-- The section of the database. -/
theorem DatabaseConfig.restores (c : DatabaseConfig) : Restores reader c.toJson c := by
  have hFields : fields.Restore _ (c.url, c.connectTimeout, c.connections, ()) :=
    .cons (Json.restores_text _ c.url) <|
    .cons (restores_u64 c.connectTimeout) <|
    .cons (restores_u32 c.connections) .nil
  exact (Restores.record "struct DatabaseConfig" (by decide) hFields).map _

/-- The section of the announcements. -/
theorem PusherConfig.restores (c : PusherConfig) : Restores reader c.toJson c := by
  have hFields : fields.Restore _
      (c.key, c.secret, c.appId, c.endpoint, c.connectTimeout, c.requestTimeout, ()) :=
    .cons (Json.restores_text _ c.key) <|
    .cons (Json.restores_text _ c.secret) <|
    .cons (Json.restores_text _ c.appId) <|
    .cons (Json.restores_text _ c.endpoint) <|
    .cons (restores_u64 c.connectTimeout) <|
    .cons (restores_u64 c.requestTimeout) .nil
  exact (Restores.record "struct PusherConfig" (by decide) hFields).map _

/-- The section of the workers. -/
theorem PoolConfig.restores (c : PoolConfig) : Restores reader c.toJson c := by
  have hFields : fields.Restore _ (c.workers, c.metricsInterval, ()) :=
    .cons (restores_size c.workers) <|
    .cons (restores_u64 c.metricsInterval) .nil
  exact (Restores.record "struct WorkerConfig" (by decide) hFields).map _

/-- A whole configuration is a record of its sections. -/
theorem Config.restores (c : Config) : Restores reader c.toJson c := by
  have hFields : fields.Restore _ (c.broker, c.database, c.pusher, c.pool, ()) :=
    .cons c.broker.restores <|
    .cons c.database.restores <|
    .cons c.pusher.restores <|
    .cons c.pool.restores .nil
  exact (Restores.record "struct Config" (by decide) hFields).map _

/-- The settings of logging; a level, an output and a format are read by their names. -/
theorem LogSettings.restores (s : LogSettings) : Restores reader s.toJson s := by
  have hLevel : Restores levelReader (.text s.level.name) s.level :=
    Json.restores_choice (by cases s.level <;> rfl)
  have hOutput : Restores outputReader (.text s.output.name) s.output :=
    Json.restores_choice (by cases s.output <;> rfl)
  have hFormat : Restores formatReader (.text s.format.name) s.format :=
    Json.restores_choice (by cases s.format <;> rfl)
  have hFields : fields.Restore _ (s.level, s.output, s.format, s.directory, s.filePrefix,
      s.directives, s.location, s.threadIds, s.targets, ()) :=
    .cons hLevel <|
    .cons hOutput <|
    .cons hFormat <|
    .cons (Json.restores_text _ s.directory) <|
    .cons (Json.restores_text _ s.filePrefix) <|
    .cons (Json.restores_nullable_text _ s.directives) <|
    .cons (Json.restores_flag s.location) <|
    .cons (Json.restores_flag s.threadIds) <|
    .cons (Json.restores_flag s.targets) .nil
  exact (Restores.record "struct LogConfig" (by decide) hFields).map _

/-! ## Their own texts -/

/-- The section of the queue is an object of texts and of a number that fits a word. -/
theorem QueueConfig.plain (c : QueueConfig) : c.toJson.Plain 2 := by
  have hMultiplier : c.multiplier.toNat < UInt64.size :=
    Nat.lt_trans c.multiplier.toNat_lt (by decide)
  refine .object ?_
  simp only [List.forall_mem_cons]
  exact ⟨.text _, .text _, .text _, plain_natural hMultiplier, nofun⟩

theorem DatabaseConfig.plain (c : DatabaseConfig) : c.toJson.Plain 2 := by
  have hConnections : c.connections.toNat < UInt64.size :=
    Nat.lt_trans c.connections.toNat_lt (by decide)
  refine .object ?_
  simp only [List.forall_mem_cons]
  exact ⟨.text _, plain_natural c.connectTimeout.toNat_lt, plain_natural hConnections, nofun⟩

theorem PusherConfig.plain (c : PusherConfig) : c.toJson.Plain 2 := by
  refine .object ?_
  simp only [List.forall_mem_cons]
  exact ⟨.text _, .text _, .text _, .text _, plain_natural c.connectTimeout.toNat_lt,
    plain_natural c.requestTimeout.toNat_lt, nofun⟩

theorem PoolConfig.plain (c : PoolConfig) : c.toJson.Plain 2 := by
  refine .object ?_
  simp only [List.forall_mem_cons]
  exact ⟨plain_natural c.workers.toNat_lt, plain_natural c.metricsInterval.toNat_lt, nofun⟩

/-- A whole configuration is one level deeper than its sections. -/
theorem Config.plain (c : Config) : c.toJson.Plain 3 := by
  refine .object ?_
  simp only [List.forall_mem_cons]
  exact ⟨c.broker.plain, c.database.plain, c.pusher.plain, c.pool.plain, nofun⟩

/-- Directives that are not given are rendered as `null`. -/
theorem LogSettings.plain (s : LogSettings) : s.toJson.Plain 2 := by
  have hDirectives : ((s.directives.map Value.text).getD .null).Plain 1 := by
    cases s.directives with
    | none => exact .null
    | some directives => exact .text directives
  refine .object ?_
  simp only [List.forall_mem_cons]
  exact ⟨.text _, .text _, .text _, .text _, .text _, hDirectives, .flag _, .flag _, .flag _, nofun⟩

/-! ## Reading them back -/

/-- A configuration, and the settings of logging, are read back from their own text and from every
other text that spells the same values. -/
theorem parse_spelled :
    (∀ c : Config, Config.parse (encode c.toJson.render) = .ok c ∧
      ∀ input, Spells input c.toJson → Config.parse input = .ok c) ∧
    ∀ s : LogSettings, LogSettings.parse (encode s.toJson.render) = .ok s ∧
      ∀ input, Spells input s.toJson → LogSettings.parse input = .ok s := by
  refine ⟨fun c => ⟨?_, fun input h => c.restores.decode h⟩,
    fun s => ⟨?_, fun input h => s.restores.decode h⟩⟩
  · exact c.restores.decode c.plain.spells
  · exact s.restores.decode s.plain.spells

/-! ## A text in another order -/

/-- A section with its members in reverse order, another one before them, and blanks. -/
def PoolConfig.reordered (c : PoolConfig) (r : Json.Bytes) : Json.Bytes :=
  encode "\x7b " ++ (encode (Json.renderText "note") ++ (encode ":" ++ (encode "null" ++
    (encode " ," ++ (encode (Json.renderText "metrics_interval_secs") ++ (encode ": " ++
    (encode (toString (c.metricsInterval.toNat : Int)) ++ (encode "," ++
    (encode (Json.renderText "workers") ++ (encode ":" ++
    (encode (toString (c.workers.toNat : Int)) ++ (encode "\x7d" ++ r))))))))))))

/-- The sections as a list, the last of them reordered. -/
def Config.listed (c : Config) : Json.Bytes :=
  encode "\n[" ++ (encode c.broker.toJson.render ++ (encode "," ++
    (encode c.database.toJson.render ++ (encode " , " ++ (encode c.pusher.toJson.render ++
    (encode "," ++ c.pool.reordered (encode " ]")))))))

/-- The reordered section spells what the section does. The members are taken from the last to the
first, each with all the text that follows it. -/
theorem PoolConfig.spelled_reordered (c : PoolConfig) (r : Json.Bytes) :
    Spelled (c.reordered r) c.toJson r := by
  -- The members from the last one to the first, each with what follows it.
  let afterWorkers := encode "\x7d" ++ r
  let workers := encode (toString (c.workers.toNat : Int)) ++ afterWorkers
  let atWorkers := encode (Json.renderText "workers") ++ (encode ":" ++ workers)
  let afterInterval := encode "," ++ atWorkers
  let interval := encode (toString (c.metricsInterval.toNat : Int)) ++ afterInterval
  let atInterval := encode (Json.renderText "metrics_interval_secs") ++ (encode ": " ++ interval)
  let afterNote := encode " ," ++ atInterval
  let note := encode "null" ++ afterNote
  let atNote := encode (Json.renderText "note") ++ (encode ":" ++ note)
  have hWorkers : Json.Integer workers c.workers.toNat afterWorkers := Json.integer_render _ _
  have hInterval : Json.Integer interval c.metricsInterval.toNat afterInterval :=
    Json.integer_render _ _
  have hLast : Json.Entry atWorkers ⟨"workers", workers, afterWorkers⟩ afterWorkers :=
    .member _ _ workers workers _ atWorkers "workers" (.none _) (Json.textual_render _ _) (.none _)
      (.none _) hWorkers.loose
  have hMiddle : Json.Entry atInterval ⟨"metrics_interval_secs", interval, afterInterval⟩
      afterInterval :=
    .member _ _ (32 :: interval) interval _ atInterval _ (.none _) (Json.textual_render _ _)
      (.none _) (.blank 32 _ _ (.inl rfl) (.none _)) hInterval.loose
  have hFirst : Json.Entry (32 :: atNote) ⟨"note", note, afterNote⟩ afterNote :=
    .member _ _ note note _ atNote "note" (.blank 32 _ _ (.inl rfl) (.none _))
      (Json.textual_render _ _) (.none _) (.none _) (.null _)
  have hObject : Json.ObjectOf (c.reordered r) [⟨"note", note, afterNote⟩,
      ⟨"metrics_interval_secs", interval, afterInterval⟩, ⟨"workers", workers, afterWorkers⟩] r :=
    .object (32 :: atNote) r _ <|
      .item true _ _ afterNote r _ _ (.first _) hFirst <|
      .item false _ atInterval afterInterval r _ _
        (.next _ _ (.blank 32 _ _ (.inl rfl) (.none _))) hMiddle <|
      .item false _ atWorkers afterWorkers r _ _ (.next _ _ (.none _)) hLast <|
      .close false _ r (.none _)
  refine .object _ r _ _ [⟨"workers", workers, afterWorkers⟩,
    ⟨"metrics_interval_secs", interval, afterInterval⟩] [⟨"note", note, afterNote⟩] hObject ?_ rfl
    (.cons (.integer _ _ _ hWorkers) (.cons (.integer _ _ _ hInterval) .nil)) ?_
  · exact (List.reverse_perm _).symm
  · intro member hMember
    rw [List.mem_singleton.1 hMember]
    show "note" ∉ ["workers", "metrics_interval_secs"]
    decide

/-- A list spells a record by the order of its elements alone. -/
theorem Config.spells_listed (c : Config) : Spells c.listed c.toJson := by
  let afterPool := encode " ]"
  let pool := c.pool.reordered afterPool
  let afterPusher := encode "," ++ pool
  let pusher := encode c.pusher.toJson.render ++ afterPusher
  let afterDatabase := encode " , " ++ pusher
  let database := encode c.database.toJson.render ++ afterDatabase
  let afterBroker := encode "," ++ database
  let broker := encode c.broker.toJson.render ++ afterBroker
  have hBroker : Spelled broker c.broker.toJson afterBroker := c.broker.plain.spelled _
  have hDatabase : Spelled database c.database.toJson afterDatabase := c.database.plain.spelled _
  have hPusher : Spelled pusher c.pusher.toJson afterPusher := c.pusher.plain.spelled _
  have hPool : Spelled pool c.pool.toJson afterPool := c.pool.spelled_reordered _
  have hList : Json.ListOf (91 :: broker)
      [⟨broker, afterBroker⟩, ⟨database, afterDatabase⟩, ⟨pusher, afterPusher⟩, ⟨pool, afterPool⟩]
      [] :=
    .list broker [] _ <|
      .item true _ _ afterBroker [] _ _ (.first _) (.value _ _ _ (.none _) hBroker.loose) <|
      .item false _ _ afterDatabase [] _ _ (.next _ _ (.none _))
        (.value _ _ _ (.none _) hDatabase.loose) <|
      .item false _ (32 :: pusher) afterPusher [] _ _
        (.next _ _ (.blank 32 _ _ (.inl rfl) (.none _)))
        (.value _ _ _ (.blank 32 _ _ (.inl rfl) (.none _)) hPusher.loose) <|
      .item false _ _ afterPool [] _ _ (.next _ _ (.none _))
        (.value _ _ _ (.none _) hPool.loose) <|
      .close false _ [] (.blank 32 _ _ (.inl rfl) (.none _))
  exact ⟨91 :: broker, [], .blank 10 _ _ (.inr (.inr (.inl rfl))) (.none _),
    .fields _ _ _ _ hList (.cons hBroker (.cons hDatabase (.cons hPusher (.cons hPool .nil)))),
    .none _⟩

/-- A configuration with quotes, a control character and the ends of the ranges of numbers. -/
def Config.extreme : Config where
  broker := ⟨"amqp://\"user\"@host", "line\nfeed", "\u0001\\", 65535⟩
  database := ⟨"", 18446744073709551615, 4294967295⟩
  pusher := ⟨"key", "s\u00e9cret", "1234", "\u20ac", 0, 5⟩
  pool := ⟨18446744073709551615, 0⟩

/-- A list with a reordered section is read, and so are the standard settings of logging from their
own text. -/
theorem parse_spelled_listed :
    Config.parse Config.extreme.listed = .ok Config.extreme ∧
      LogSettings.parse (encode LogSettings.standard.toJson.render) = .ok LogSettings.standard :=
  ⟨(parse_spelled.1 Config.extreme).2 _ Config.extreme.spells_listed,
    (parse_spelled.2 .standard).2 _ LogSettings.standard.plain.spells⟩

end JobLog
