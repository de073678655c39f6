import JobLog.Proofs.Config.Variables

/-!
# Which configurations are accepted

Fifteen variables are read in `readingOrder`, and then the demands on the configuration are checked
in the order of `demands`. `fromLookup_outcome` says for every lookup what becomes of it: a
configuration that `Describes` it, if the lookup is `Acceptable`, and otherwise the first fault of a
variable, or, if no variable is at fault, the complaint of the first demand that is not met. Both
passes are sequences of actions that each report one thing, so both follow from `Reports.bind`.
-/

namespace JobLog.Config

/-! ## The first thing that is wrong -/

/-- What is wrong with the first of the things that something is wrong with. -/
inductive First {α ε : Type} (wrong : α → ε → Prop) : List α → ε → Prop
  | here (x : α) (xs : List α) (e : ε) (hwrong : wrong x e) : First wrong (x :: xs) e
  | there (x : α) (xs : List α) (e : ε) (hright : ∀ e, ¬ wrong x e) (hrest : First wrong xs e) :
      First wrong (x :: xs) e

/-- An action that fails with what is wrong with the first of several things. -/
def Reports {α β : Type} (wrong : α → SettingError → Prop) (xs : List α)
    (action : Except SettingError β) : Prop :=
  ∀ e, action = .error e ↔ First wrong xs e

section First

variable {α β γ : Type} {wrong : α → SettingError → Prop} {x : α} {xs : List α} {e : SettingError}

theorem First.exists (h : First wrong xs e) : ∃ x ∈ xs, wrong x e := by
  induction h with
  | here x xs e hwrong => exact ⟨x, List.mem_cons_self, hwrong⟩
  | there x xs e _ _ ih =>
      obtain ⟨y, hy, hwrong⟩ := ih
      exact ⟨y, List.mem_cons_of_mem x hy, hwrong⟩

/-- If anything is wrong at all, something is wrong first. -/
theorem First.of_wrong (h : wrong x e) (hx : x ∈ xs) : ∃ e, First wrong xs e := by
  induction xs with
  | nil => cases hx
  | cons y ys ih =>
      by_cases hy : ∃ e, wrong y e
      · obtain ⟨e, hy⟩ := hy
        exact ⟨e, .here y ys e hy⟩
      · rcases List.mem_cons.1 hx with rfl | hx
        · exact absurd ⟨e, h⟩ hy
        · obtain ⟨e, hrest⟩ := ih hx
          exact ⟨e, .there y ys e (not_exists.1 hy) hrest⟩

/-- An action that reports nothing has found nothing wrong. -/
theorem Reports.not_wrong {action : Except SettingError β} (h : Reports wrong xs action) {b : β}
    (hok : action = .ok b) (hx : x ∈ xs) : ¬ wrong x e := by
  intro hwrong
  obtain ⟨e, hfirst⟩ := First.of_wrong hwrong hx
  have herror := (h e).2 hfirst
  rw [hok] at herror
  cases herror

theorem Reports.ok (b : β) : Reports wrong [] (.ok b) :=
  fun _ => ⟨nofun, nofun⟩

/-- Of two actions in sequence, the second one reports if the first one does not. -/
theorem Reports.bind {first : Except SettingError β} {next : β → Except SettingError γ}
    (hfirst : ∀ e, first = .error e ↔ wrong x e) (hnext : ∀ b, Reports wrong xs (next b)) :
    Reports wrong (x :: xs) (first >>= next) := by
  intro e
  cases first with
  | error found =>
      have hfound : wrong x found := (hfirst found).1 rfl
      constructor
      · rintro ⟨⟩
        exact .here x xs _ hfound
      · intro h
        cases h with
        | here _ _ _ hwrong =>
            cases (hfirst e).2 hwrong
            rfl
        | there _ _ _ hright => exact absurd hfound (hright found)
  | ok b =>
      have hright : ∀ e, ¬ wrong x e := fun e hwrong => nomatch (hfirst e).2 hwrong
      constructor
      · exact fun h => .there x xs e hright ((hnext b e).1 h)
      · intro h
        cases h with
        | here _ _ _ hwrong => exact absurd hwrong (hright e)
        | there _ _ _ _ hrest => exact (hnext b e).2 hrest

end First

/-! ## Reading all variables -/

/-- The variables in the order in which they are read, and what they are read as. -/
def readingOrder : List (String × Form) :=
  [("AMQP_URL", .credential), ("LOGRELAY_QUEUE", .text), ("LOGRELAY_EXCHANGE", .text),
    ("LOGRELAY_PREFETCH_MULTIPLIER", .number (UInt16.size - 1)), ("DATABASE_URL", .credential),
    ("DB_CONNECT_TIMEOUT", .number (UInt64.size - 1)),
    ("DB_MAX_CONNECTIONS_PER_WORKER", .number (UInt32.size - 1)), ("PUSHER_KEY", .credential),
    ("PUSHER_SECRET", .credential), ("PUSHER_APP_ID", .credential), ("PUSHER_ENDPOINT", .text),
    ("PUSHER_CONNECT_TIMEOUT", .number (UInt64.size - 1)),
    ("PUSHER_REQUEST_TIMEOUT", .number (UInt64.size - 1)),
    ("LOGRELAY_WORKERS", .number (UInt64.size - 1)),
    ("LOGRELAY_METRICS_INTERVAL", .number (UInt64.size - 1))]

/-- The configuration has what the variables stand for. -/
structure Describes (lookup : Lookup) (c : Config) : Prop where
  url : Given lookup "AMQP_URL" c.broker.url
  queue : TextOf lookup "LOGRELAY_QUEUE" "reporting.jobs.logs" c.broker.queue
  exchange : TextOf lookup "LOGRELAY_EXCHANGE" "reporting" c.broker.exchange
  multiplier : NumberOf lookup "LOGRELAY_PREFETCH_MULTIPLIER" 3 c.broker.multiplier.toNat
  database : Given lookup "DATABASE_URL" c.database.url
  timeout : NumberOf lookup "DB_CONNECT_TIMEOUT" 30 c.database.connectTimeout.toNat
  connections : NumberOf lookup "DB_MAX_CONNECTIONS_PER_WORKER" 1 c.database.connections.toNat
  key : Given lookup "PUSHER_KEY" c.pusher.key
  secret : Given lookup "PUSHER_SECRET" c.pusher.secret
  appId : Given lookup "PUSHER_APP_ID" c.pusher.appId
  endpoint : TextOf lookup "PUSHER_ENDPOINT" "https://api.pusherapp.com" c.pusher.endpoint
  connectTimeout : NumberOf lookup "PUSHER_CONNECT_TIMEOUT" 3 c.pusher.connectTimeout.toNat
  requestTimeout : NumberOf lookup "PUSHER_REQUEST_TIMEOUT" 5 c.pusher.requestTimeout.toNat
  workers : NumberOf lookup "LOGRELAY_WORKERS" 10 c.pool.workers.toNat
  interval : NumberOf lookup "LOGRELAY_METRICS_INTERVAL" 60 c.pool.metricsInterval.toNat

variable {lookup : Lookup} {c : Config}

theorem read_reports : Reports (Fault lookup) readingOrder (read lookup) :=
  .bind (fun _ => required_eq_error_iff) fun _ =>
  .bind (fun _ => optionalText_eq_error_iff) fun _ =>
  .bind (fun _ => optionalText_eq_error_iff) fun _ =>
  .bind (fun _ => optionalWhole_eq_error_iff) fun _ =>
  .bind (fun _ => required_eq_error_iff) fun _ =>
  .bind (fun _ => optionalWhole_eq_error_iff) fun _ =>
  .bind (fun _ => optionalWhole_eq_error_iff) fun _ =>
  .bind (fun _ => required_eq_error_iff) fun _ =>
  .bind (fun _ => required_eq_error_iff) fun _ =>
  .bind (fun _ => required_eq_error_iff) fun _ =>
  .bind (fun _ => optionalText_eq_error_iff) fun _ =>
  .bind (fun _ => optionalWhole_eq_error_iff) fun _ =>
  .bind (fun _ => optionalWhole_eq_error_iff) fun _ =>
  .bind (fun _ => optionalWhole_eq_error_iff) fun _ =>
  .bind (fun _ => optionalWhole_eq_error_iff) fun _ => .ok _

theorem toNat_ofNat_wide {n : Nat} (h : n ≤ UInt64.size - 1) : (UInt64.ofNat n).toNat = n :=
  UInt64.toNat_ofNat_of_lt' (Nat.lt_of_le_pred (by decide) h)

theorem toNat_le_wide (n : UInt64) : n.toNat ≤ UInt64.size - 1 :=
  Nat.le_pred_of_lt n.toNat_lt_size

theorem read_eq_ok_iff : read lookup = .ok c ↔ Describes lookup c := by
  have hnarrow : 3 ≤ UInt16.size - 1 := by decide
  have hmedium : 1 ≤ UInt32.size - 1 := by decide
  have hwide : ∀ n, n ≤ 60 → n ≤ UInt64.size - 1 := fun n hn => hn.trans (by decide)
  unfold read
  simp only [read_bind_eq_ok, required_eq_ok_iff_given, optionalText_eq_ok_iff,
    optionalWhole_eq_ok_iff hnarrow, optionalWhole_eq_ok_iff hmedium,
    optionalWhole_eq_ok_iff (hwide 3 (by decide)), optionalWhole_eq_ok_iff (hwide 5 (by decide)),
    optionalWhole_eq_ok_iff (hwide 10 (by decide)), optionalWhole_eq_ok_iff (hwide 30 (by decide)),
    optionalWhole_eq_ok_iff (hwide 60 (by decide))]
  constructor
  · rintro ⟨url, hurl, queue, hqueue, exchange, hexchange, multiplier, ⟨hmultiplier, hmultiplierMax⟩,
      database, hdatabase, timeout, ⟨htimeout, htimeoutMax⟩, connections,
      ⟨hconnections, hconnectionsMax⟩, key, hkey, secret, hsecret, appId, happId, endpoint,
      hendpoint, connectTimeout, ⟨hconnectTimeout, hconnectTimeoutMax⟩, requestTimeout,
      ⟨hrequestTimeout, hrequestTimeoutMax⟩, workers, ⟨hworkers, hworkersMax⟩, interval,
      ⟨hinterval, hintervalMax⟩, hc⟩
    cases hc
    exact {
      url := hurl
      queue := hqueue
      exchange := hexchange
      multiplier := hmultiplier.of_eq
        (UInt16.toNat_ofNat_of_lt' (Nat.lt_of_le_pred (by decide) hmultiplierMax))
      database := hdatabase
      timeout := htimeout.of_eq (toNat_ofNat_wide htimeoutMax)
      connections := hconnections.of_eq
        (UInt32.toNat_ofNat_of_lt' (Nat.lt_of_le_pred (by decide) hconnectionsMax))
      key := hkey
      secret := hsecret
      appId := happId
      endpoint := hendpoint
      connectTimeout := hconnectTimeout.of_eq (toNat_ofNat_wide hconnectTimeoutMax)
      requestTimeout := hrequestTimeout.of_eq (toNat_ofNat_wide hrequestTimeoutMax)
      workers := hworkers.of_eq (toNat_ofNat_wide hworkersMax)
      interval := hinterval.of_eq (toNat_ofNat_wide hintervalMax) }
  · intro h
    refine ⟨_, h.url, _, h.queue, _, h.exchange, _, ⟨h.multiplier, ?_⟩, _, h.database, _,
      ⟨h.timeout, toNat_le_wide _⟩, _, ⟨h.connections, ?_⟩, _, h.key, _, h.secret, _, h.appId, _,
      h.endpoint, _, ⟨h.connectTimeout, toNat_le_wide _⟩, _, ⟨h.requestTimeout, toNat_le_wide _⟩, _,
      ⟨h.workers, toNat_le_wide _⟩, _, ⟨h.interval, toNat_le_wide _⟩, ?_⟩
    · exact Nat.le_pred_of_lt (UInt16.toNat_lt_size _)
    · exact Nat.le_pred_of_lt (UInt32.toNat_lt_size _)
    · simp only [UInt16.ofNat_toNat, UInt32.ofNat_toNat, UInt64.ofNat_toNat]
      rfl

/-! ## Checking the demands -/

/-- An address of the web starts with one of two schemes. -/
def WebAddress (s : List Char) : Prop :=
  "http://".toList <+: s ∨ "https://".toList <+: s

/-- What is demanded of a configuration, in the order of the check, with the complaints. -/
def demands (c : Config) : List (Prop × SettingError) :=
  [(c.pool.workers.toNat ≠ 0, .invalid "LOGRELAY_WORKERS" "must be greater than 0"),
    (c.broker.multiplier.toNat ≠ 0,
      .invalid "LOGRELAY_PREFETCH_MULTIPLIER" "must be greater than 0"),
    (c.pool.metricsInterval.toNat ≠ 0,
      .invalid "LOGRELAY_METRICS_INTERVAL" "must be greater than 0"),
    (c.database.connections.toNat ≠ 0,
      .invalid "DB_MAX_CONNECTIONS_PER_WORKER" "must be greater than 0"),
    (c.broker.queue ≠ "", .missing "LOGRELAY_QUEUE"),
    (WebAddress c.pusher.endpoint.toList,
      .invalid "PUSHER_ENDPOINT" ("'" ++ c.pusher.endpoint ++ "' is not an http(s) URL"))]

/-- The demand is not met, and the complaint is its own. -/
def Unmet (demand : Prop × SettingError) (e : SettingError) : Prop :=
  ¬ demand.1 ∧ e = demand.2

theorem isWebAddress_iff {s : String} : isWebAddress s = true ↔ WebAddress s.toList := by
  rw [isWebAddress, Bool.or_eq_true, List.isPrefixOf_iff_prefix, List.isPrefixOf_iff_prefix]
  rfl

theorem positive_eq_error_iff {name : String} {n : Nat} {e : SettingError} :
    positive name n = .error e ↔ Unmet (n ≠ 0, .invalid name "must be greater than 0") e := by
  unfold positive
  split
  · exact ⟨by rintro ⟨⟩; exact ⟨not_not_intro ‹_›, rfl⟩, by rintro ⟨-, rfl⟩; rfl⟩
  · exact ⟨nofun, fun h => absurd ‹¬ n = 0› h.1⟩

/-- A demand whose complaint is raised where its negation is found. -/
theorem Reports.guard {unmet met : Prop} [Decidable unmet] {complaint : SettingError}
    {rest : List (Prop × SettingError)} {next : Except SettingError Unit} (hmet : unmet ↔ ¬ met)
    (hnext : Reports Unmet rest next) :
    Reports Unmet ((met, complaint) :: rest) (if unmet then .error complaint else next) := by
  have hfirst : ∀ e, (if unmet then .error complaint else .ok () : Except SettingError Unit) =
      .error e ↔ Unmet (met, complaint) e := by
    intro e
    split
    · exact ⟨by rintro ⟨⟩; exact ⟨hmet.1 ‹_›, rfl⟩, by rintro ⟨-, rfl⟩; rfl⟩
    · exact ⟨nofun, fun h => absurd (hmet.2 h.1) ‹_›⟩
  have hbind := Reports.bind hfirst fun _ => hnext
  by_cases h : unmet
  · rw [if_pos h] at hbind ⊢
    exact hbind
  · rw [if_neg h] at hbind ⊢
    exact hbind

theorem check_reports : Reports Unmet (demands c) c.check := by
  have hendpoint : Reports Unmet
      [(WebAddress c.pusher.endpoint.toList,
        .invalid "PUSHER_ENDPOINT" ("'" ++ c.pusher.endpoint ++ "' is not an http(s) URL"))]
      (if isWebAddress c.pusher.endpoint = true then .ok ()
        else .error (.invalid "PUSHER_ENDPOINT"
          ("'" ++ c.pusher.endpoint ++ "' is not an http(s) URL"))) := by
    rw [← ite_not]
    exact .guard (not_congr isWebAddress_iff) (.ok ())
  exact
    .bind (fun _ => positive_eq_error_iff) fun _ =>
    .bind (fun _ => positive_eq_error_iff) fun _ =>
    .bind (fun _ => positive_eq_error_iff) fun _ =>
    .bind (fun _ => positive_eq_error_iff) fun _ =>
    .guard (by rw [String.isEmpty_iff, not_not]) hendpoint

/-- A configuration that passes the check meets all demands. -/
theorem check_eq_ok_iff_demands : c.check = .ok () ↔ ∀ demand ∈ demands c, demand.1 := by
  constructor
  · intro hok demand hdemand
    by_contra hunmet
    exact check_reports.not_wrong hok hdemand ⟨hunmet, rfl⟩
  · intro hdemands
    cases hcheck : c.check with
    | ok => rfl
    | error e =>
        obtain ⟨demand, hdemand, hunmet, -⟩ := ((check_reports e).1 hcheck).exists
        exact absurd (hdemands demand hdemand) hunmet

/-! ## What becomes of a lookup -/

/-- The variables are such that a configuration is accepted. -/
structure Acceptable (lookup : Lookup) : Prop where
  credentials : ∀ name, (name, .credential) ∈ readingOrder → ∃ value, Given lookup name value
  numbers : ∀ name max, (name, .number max) ∈ readingOrder → ∀ value text,
    Given lookup name value → Text.Trims value.toList text → ∃ n ≤ max, Numeral text n
  positive : ∀ name ∈ ["LOGRELAY_WORKERS", "LOGRELAY_PREFETCH_MULTIPLIER",
    "LOGRELAY_METRICS_INTERVAL", "DB_MAX_CONNECTIONS_PER_WORKER"], ∀ value text n,
    Given lookup name value → Text.Trims value.toList text → Numeral text n → n ≠ 0
  endpoint : ∀ value text, Given lookup "PUSHER_ENDPOINT" value → Text.Trims value.toList text →
    WebAddress text

/-- No variable of an acceptable lookup is at fault. -/
theorem Acceptable.not_fault (h : Acceptable lookup) {setting : String × Form} {e : SettingError}
    (hsetting : setting ∈ readingOrder) : ¬ Fault lookup setting e := by
  intro hfault
  cases hfault with
  | missing name habsent =>
      obtain ⟨value, hgiven⟩ := h.credentials name hsetting
      exact habsent value hgiven
  | invalid name value max text reason hgiven htrims hunreadable =>
      obtain ⟨n, hmax, hnumeral⟩ := h.numbers name max hsetting value text hgiven htrims
      exact absurd hmax (Nat.not_le_of_lt (hunreadable.lt hnumeral))

/-- A blank name of the queue counts as unset, so the queue has a name. -/
theorem Describes.queue_ne_empty (h : Describes lookup c) : c.broker.queue ≠ "" := by
  have hqueue : c.broker.queue.toList ≠ [] :=
    h.queue.satisfies (P := fun queue => queue.toList ≠ []) (by decide)
      fun _ _ _ hgiven htrims hqueue => hqueue ▸ hgiven.trimmed_ne_nil htrims
  exact fun hempty => hqueue (by rw [hempty]; rfl)

/-- Every default meets the demands, so what is given decides. -/
theorem Acceptable.demands (h : Acceptable lookup) (hdescribes : Describes lookup c) :
    ∀ demand ∈ c.demands, demand.1 := by
  simp only [Config.demands, List.forall_mem_cons, List.not_mem_nil, false_implies, implies_true,
    and_true]
  exact ⟨hdescribes.workers.satisfies (P := (· ≠ 0)) (by decide) (h.positive _ (by decide)),
    hdescribes.multiplier.satisfies (P := (· ≠ 0)) (by decide) (h.positive _ (by decide)),
    hdescribes.interval.satisfies (P := (· ≠ 0)) (by decide) (h.positive _ (by decide)),
    hdescribes.connections.satisfies (P := (· ≠ 0)) (by decide) (h.positive _ (by decide)),
    hdescribes.queue_ne_empty,
    hdescribes.endpoint.satisfies (P := fun endpoint => WebAddress endpoint.toList)
      (.inr (by decide)) fun value text _ hgiven htrims hendpoint =>
        hendpoint ▸ h.endpoint value text hgiven htrims⟩

/-- The numbers of a configuration that meets all demands are not zero, and its endpoint is an
address of the web; so the variables are acceptable. -/
theorem acceptable_of_demands (hdescribes : Describes lookup c)
    (hdemands : ∀ demand ∈ c.demands, demand.1) : Acceptable lookup := by
  have hright : ∀ setting ∈ readingOrder, ∀ e, ¬ Fault lookup setting e :=
    fun setting hsetting e => read_reports.not_wrong (read_eq_ok_iff.2 hdescribes) hsetting
  simp only [Config.demands, List.forall_mem_cons, List.not_mem_nil, false_implies, implies_true,
    and_true] at hdemands
  obtain ⟨hworkers, hmultiplier, hinterval, hconnections, -, hendpoint⟩ := hdemands
  refine ⟨fun name hname => ?_, fun name max hname value text hgiven htrims => ?_, ?_, ?_⟩
  · by_contra hnone
    exact hright _ hname _ (.missing name (not_exists.1 hnone))
  · rcases numeral_or_unreadable max (hgiven.trimmed_ne_nil htrims) with
      hnumeral | ⟨reason, hunreadable⟩
    · exact hnumeral
    · exact absurd (.invalid name value max text reason hgiven htrims hunreadable)
        (hright _ hname _)
  · simp only [List.forall_mem_cons, List.not_mem_nil, false_implies, implies_true, and_true]
    exact ⟨given_ne_zero hdescribes.workers hworkers,
      given_ne_zero hdescribes.multiplier hmultiplier,
      given_ne_zero hdescribes.interval hinterval,
      given_ne_zero hdescribes.connections hconnections⟩
  · intro value text hgiven htrims
    rw [eq_trim htrims, ← hdescribes.endpoint.denotes_trim hgiven]
    exact hendpoint

theorem acceptable_iff :
    Acceptable lookup ↔ ∃ c, Describes lookup c ∧ ∀ demand ∈ c.demands, demand.1 := by
  constructor
  · intro h
    cases hread : read lookup with
    | error e =>
        obtain ⟨setting, hsetting, hfault⟩ := ((read_reports e).1 hread).exists
        exact absurd hfault (h.not_fault hsetting)
    | ok c =>
        have hdescribes := read_eq_ok_iff.1 hread
        exact ⟨c, hdescribes, h.demands hdescribes⟩
  · rintro ⟨c, hdescribes, hdemands⟩
    exact acceptable_of_demands hdescribes hdemands

theorem fromLookup_eq_ok_iff {events : List Event} : fromLookup lookup = .ok (c, events) ↔
    Describes lookup c ∧ (∀ demand ∈ c.demands, demand.1) ∧ events = c.saturation := by
  rw [← check_eq_ok_iff_demands, ← read_eq_ok_iff, fromLookup]
  cases read lookup with
  | error e => exact ⟨nofun, fun h => nomatch h.1⟩
  | ok found =>
      constructor
      · intro h
        dsimp only at h
        split at h
        · cases h
        · rename_i hvalidate
          cases h
          obtain ⟨hvalid, hevents⟩ := validate_eq_ok_iff.1 hvalidate
          exact ⟨rfl, check_eq_ok_iff.2 hvalid, hevents⟩
      · rintro ⟨⟨⟩, hcheck, rfl⟩
        dsimp only
        rw [validate_eq_ok_iff.2 ⟨check_eq_ok_iff.1 hcheck, rfl⟩]

theorem validate_eq_error_iff {e : SettingError} :
    c.validate = .error e ↔ First Unmet c.demands e := by
  rw [← check_reports e, validate]
  cases c.check with
  | error => exact ⟨by rintro ⟨⟩; rfl, by rintro ⟨⟩; rfl⟩
  | ok => exact iff_of_false (by rintro ⟨⟩) (by rintro ⟨⟩)

theorem fromLookup_eq_error_iff {e : SettingError} : fromLookup lookup = .error e ↔
    First (Fault lookup) readingOrder e ∨ ∃ c, Describes lookup c ∧ First Unmet c.demands e := by
  simp only [← read_reports e, ← read_eq_ok_iff, ← validate_eq_error_iff]
  rw [fromLookup]
  cases read lookup with
  | error found =>
      constructor
      · rintro ⟨⟩
        exact .inl rfl
      · rintro (⟨⟨⟩⟩ | ⟨_, hread, -⟩)
        · rfl
        · cases hread
  | ok found =>
      dsimp only
      constructor
      · intro h
        split at h
        · rename_i hvalidate
          cases h
          exact .inr ⟨found, rfl, hvalidate⟩
        · cases h
      · rintro (hread | ⟨_, ⟨⟩, hvalidate⟩)
        · cases hread
        · rw [hvalidate]

/-- The complaint of an empty queue cannot come from variables. -/
theorem fromLookup_ne_missing_queue : fromLookup lookup ≠ .error (.missing "LOGRELAY_QUEUE") := by
  intro h
  rcases fromLookup_eq_error_iff.1 h with hfirst | ⟨c, hdescribes, hfirst⟩
  · obtain ⟨setting, hsetting, hfault⟩ := hfirst.exists
    cases hfault with
    | missing => exact absurd hsetting (by decide)
  · obtain ⟨demand, hdemand, hunmet, hcomplaint⟩ := hfirst.exists
    have hmet : ∀ demand ∈ c.demands, demand.2 = .missing "LOGRELAY_QUEUE" → demand.1 := by
      simp only [demands, List.forall_mem_cons, reduceCtorEq, false_implies, true_and,
        List.not_mem_nil, implies_true, and_true]
      exact fun _ => hdescribes.queue_ne_empty
    exact hunmet (hmet demand hdemand hcomplaint.symm)

/-- For every lookup: it is accepted just if it is `Acceptable`; what is accepted is the one
configuration that the variables describe, with its warning; what is reported is the first fault in
reading order, or if there is none the first demand that the described configuration does not meet;
and an empty name of the queue is never reported. -/
theorem fromLookup_outcome (lookup : Lookup) :
    ((∃ c events, fromLookup lookup = .ok (c, events)) ↔ Acceptable lookup) ∧
    (∀ c events, fromLookup lookup = .ok (c, events) ↔
      Describes lookup c ∧ (∀ demand ∈ c.demands, demand.1) ∧ events = c.saturation) ∧
    (∀ e, fromLookup lookup = .error e ↔
      First (Fault lookup) readingOrder e ∨
      (∀ setting ∈ readingOrder, ∀ e, ¬ Fault lookup setting e) ∧
        ∃ c, Describes lookup c ∧ First Unmet c.demands e) ∧
    fromLookup lookup ≠ .error (.missing "LOGRELAY_QUEUE") := by
  refine ⟨?_, fun c events => fromLookup_eq_ok_iff, fun e => ?_, fromLookup_ne_missing_queue⟩
  · rw [acceptable_iff]
    constructor
    · rintro ⟨c, events, h⟩
      obtain ⟨hdescribes, hdemands, -⟩ := fromLookup_eq_ok_iff.1 h
      exact ⟨c, hdescribes, hdemands⟩
    · rintro ⟨c, hdescribes, hdemands⟩
      exact ⟨c, c.saturation, fromLookup_eq_ok_iff.2 ⟨hdescribes, hdemands, rfl⟩⟩
  · rw [fromLookup_eq_error_iff]
    refine or_congr_right ⟨?_, fun h => h.2⟩
    rintro ⟨c, hdescribes, hfirst⟩
    have hright : ∀ setting ∈ readingOrder, ∀ e, ¬ Fault lookup setting e :=
      fun setting hsetting e => read_reports.not_wrong (read_eq_ok_iff.2 hdescribes) hsetting
    exact ⟨hright, c, hdescribes, hfirst⟩

/-- Variables as they may be set by hand. -/
def padded : Lookup
  | "AMQP_URL" => some "amqp://localhost "
  | "DATABASE_URL" => some "postgresql://localhost/logs"
  | "PUSHER_KEY" => some "key"
  | "PUSHER_SECRET" => some "secret"
  | "PUSHER_APP_ID" => some "1234"
  | "LOGRELAY_QUEUE" => some "  "
  | "LOGRELAY_WORKERS" => some " +4 "
  | _ => none

theorem fromLookup_outcome_padded :
    ∃ c, Describes padded c ∧ c.pool.workers = 4 ∧ c.broker.queue = "reporting.jobs.logs" :=
  ⟨_, (((fromLookup_outcome padded).2.1 _ []).1 rfl).1, rfl, rfl⟩

end JobLog.Config
