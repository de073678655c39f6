import JobLog.Proofs.Config.Loading
import Mathlib.Data.List.Induction

/-!
# Writing a configuration back to variables

`exported` are the variables that write a configuration: texts as they are, numbers in decimal.
Whatever a configuration was read from, it is read again from what it writes (`fromLookup_exported`).
Texts that must be given are taken as they stand. The others were trimmed when they were read and are
not blank, so they are `Settled` and trimming them once more changes nothing; and a number is what
its decimal digits stand for (`numeral_repr`).
-/

namespace JobLog

/-! ## Texts that trimming leaves alone -/

namespace Text

variable {s t : List Char}

/-- A text that was trimmed has nothing left to trim. -/
theorem Trims.trimmed (h : Trims s t) : Trims t t :=
  ⟨⟨[], [], by rw [List.nil_append, List.append_nil], nofun, nofun⟩, h.first, h.last⟩

theorem trims_of_visible (h : ∀ c ∈ t, isBlank c = false) : Trims t t :=
  ⟨⟨[], [], by rw [List.nil_append, List.append_nil], nofun, nofun⟩,
    fun c hc => h c (List.mem_of_mem_head? hc), fun c hc => h c (List.mem_of_mem_getLast? hc)⟩

theorem isBlank_of_isDigit {c : Char} (h : c.isDigit = true) : isBlank c = false := by
  have hlow : 48 ≤ c.toNat ∧ c.toNat ≤ 57 := by
    simp only [Char.isDigit, Bool.and_eq_true, decide_eq_true_eq, ge_iff_le,
      UInt32.le_iff_toNat_le] at h
    exact h
  simp only [isBlank, Bool.or_eq_false_iff, Bool.and_eq_false_iff, decide_eq_false_iff_not]
  omega

end Text

namespace Config

variable {lookup env : Lookup} {c : Config} {events : List Event} {name absent text : String}
  {default n : Nat}

/-- A text that is read as itself: something is left of it without blanks, and that is all of it. -/
structure Settled (text : String) : Prop where
  nonempty : text.toList ≠ []
  trims : Text.Trims text.toList text.toList

theorem Settled.visible (h : Settled text) : ∃ c ∈ text.toList, Text.isBlank c = false := by
  cases htext : text.toList with
  | nil => exact absurd htext h.nonempty
  | cons first rest =>
      have hfirst := h.trims.first
      rw [htext] at hfirst
      exact ⟨first, List.mem_cons_self, hfirst first rfl⟩

/-- A text with a default is settled, wherever it was read from. -/
theorem settled_of_textOf (h : TextOf lookup name absent text) (habsent : Settled absent) :
    Settled text := by
  refine h.satisfies habsent fun value trimmed other hgiven htrims hother => ?_
  rw [← hother] at htrims
  exact ⟨hgiven.trimmed_ne_nil htrims, htrims.trimmed⟩

/-- A variable that is set to a settled text stands for this text. -/
theorem textOf_settled (hset : env name = some text) (h : Settled text) :
    TextOf env name absent text :=
  .given text text.toList text ⟨hset, h.visible⟩ h.trims rfl

/-! ## Numbers in decimal -/

theorem decimal_eq_ofDigitChars (ds : List Char) : decimal ds = Nat.ofDigitChars 10 ds 0 := by
  induction ds using List.reverseRecOn with
  | nil => rfl
  | append_singleton ds c ih =>
      rw [decimal_concat, ih, Nat.mul_comm, Nat.ofDigitChars, Nat.ofDigitChars, List.foldl_append]
      rfl

theorem allDigits_repr (n : Nat) : AllDigits n.repr.toList := by
  intro c hc
  rw [Nat.toList_repr] at hc
  exact Nat.isDigit_of_mem_toDigits (by decide) (by decide) hc

theorem unsigned_of_allDigits {ds : List Char} (h : AllDigits ds) : unsigned ds = ds := by
  unfold unsigned
  split
  · exact absurd (h '+' List.mem_cons_self) (by decide)
  · rfl

/-- The decimal digits of a number are a numeral of it. -/
theorem numeral_repr (n : Nat) : Numeral n.repr.toList n := by
  have hunsigned := unsigned_of_allDigits (allDigits_repr n)
  refine ⟨?_, ?_, ?_⟩ <;> rw [hunsigned]
  · rw [Nat.toList_repr]
    exact Nat.toDigits_ne_nil
  · exact allDigits_repr n
  · rw [Nat.toList_repr, decimal_eq_ofDigitChars]
    exact Nat.ofDigitChars_toDigits (by decide) (by decide)

theorem settled_repr (n : Nat) : Settled n.repr where
  nonempty := by
    rw [Nat.toList_repr]
    exact Nat.toDigits_ne_nil
  trims := Text.trims_of_visible fun c hc => Text.isBlank_of_isDigit (allDigits_repr n c hc)

/-- A variable that is set to the decimal digits of a number stands for this number. -/
theorem numberOf_repr (hset : env name = some n.repr) : NumberOf env name default n :=
  .given n.repr n.repr.toList n ⟨hset, (settled_repr n).visible⟩ (settled_repr n).trims
    (numeral_repr n)

/-! ## All variables of a configuration -/

/-- The variables that write a configuration: texts as they are, numbers in decimal. -/
def exported (c : Config) : List (String × String) :=
  [("AMQP_URL", c.broker.url), ("LOGRELAY_QUEUE", c.broker.queue),
    ("LOGRELAY_EXCHANGE", c.broker.exchange),
    ("LOGRELAY_PREFETCH_MULTIPLIER", c.broker.multiplier.toNat.repr),
    ("DATABASE_URL", c.database.url), ("DB_CONNECT_TIMEOUT", c.database.connectTimeout.toNat.repr),
    ("DB_MAX_CONNECTIONS_PER_WORKER", c.database.connections.toNat.repr),
    ("PUSHER_KEY", c.pusher.key), ("PUSHER_SECRET", c.pusher.secret),
    ("PUSHER_APP_ID", c.pusher.appId), ("PUSHER_ENDPOINT", c.pusher.endpoint),
    ("PUSHER_CONNECT_TIMEOUT", c.pusher.connectTimeout.toNat.repr),
    ("PUSHER_REQUEST_TIMEOUT", c.pusher.requestTimeout.toNat.repr),
    ("LOGRELAY_WORKERS", c.pool.workers.toNat.repr),
    ("LOGRELAY_METRICS_INTERVAL", c.pool.metricsInterval.toNat.repr)]

/-- Where all variables of a configuration are set; others may be set too. -/
def Sets (env : Lookup) (c : Config) : Prop :=
  ∀ p ∈ c.exported, env p.1 = some p.2

/-- The variables are those that are read. -/
theorem map_fst_exported (c : Config) : c.exported.map Prod.fst = variableNames :=
  rfl

/-- A configuration that was read from variables is described by the variables that it writes. -/
theorem Describes.of_sets (h : Describes lookup c) (hsets : Sets env c) : Describes env c := by
  simp only [Sets, exported, List.forall_mem_cons, List.not_mem_nil, false_implies, implies_true,
    and_true] at hsets
  obtain ⟨hurl, hqueue, hexchange, hmultiplier, hdatabase, htimeout, hconnections, hkey, hsecret,
    happId, hendpoint, hconnectTimeout, hrequestTimeout, hworkers, hinterval⟩ := hsets
  have hdefault {text : String} (hnonempty : text.toList ≠ [])
      (htrimmed : text.toList = Text.trimChars text.toList) : Settled text :=
    ⟨hnonempty, Text.trims_iff.2 htrimmed⟩
  exact {
    url := ⟨hurl, h.url.visible⟩
    queue := textOf_settled hqueue
      (settled_of_textOf h.queue (hdefault (by decide) (by decide)))
    exchange := textOf_settled hexchange
      (settled_of_textOf h.exchange (hdefault (by decide) (by decide)))
    multiplier := numberOf_repr hmultiplier
    database := ⟨hdatabase, h.database.visible⟩
    timeout := numberOf_repr htimeout
    connections := numberOf_repr hconnections
    key := ⟨hkey, h.key.visible⟩
    secret := ⟨hsecret, h.secret.visible⟩
    appId := ⟨happId, h.appId.visible⟩
    endpoint := textOf_settled hendpoint
      (settled_of_textOf h.endpoint (hdefault (by decide) (by decide)))
    connectTimeout := numberOf_repr hconnectTimeout
    requestTimeout := numberOf_repr hrequestTimeout
    workers := numberOf_repr hworkers
    interval := numberOf_repr hinterval }

/-- A configuration that was read from variables is valid, with the warnings that reading it gave;
and wherever the fifteen variables are set to what it writes, it is read again, with the same
warnings. -/
theorem fromLookup_exported (h : fromLookup lookup = .ok (c, events)) :
    c.validate = .ok events ∧ c.exported.map Prod.fst = variableNames ∧
      ∀ env, Sets env c → fromLookup env = .ok (c, events) := by
  obtain ⟨hdescribes, hdemands, hevents⟩ := fromLookup_eq_ok_iff.1 h
  have hvalid : c.Valid := check_eq_ok_iff.1 (check_eq_ok_iff_demands.2 hdemands)
  refine ⟨validate_eq_ok_iff.2 ⟨hvalid, hevents⟩, c.map_fst_exported, fun env hsets => ?_⟩
  exact fromLookup_eq_ok_iff.2 ⟨hdescribes.of_sets hsets, hdemands, hevents⟩

/-- Settings with blanks around them and numbers at the ends of their ranges. -/
def spaced : Lookup
  | "AMQP_URL" => some " amqp://localhost "
  | "DATABASE_URL" => some "postgresql://localhost/logs"
  | "PUSHER_KEY" => some "key"
  | "PUSHER_SECRET" => some " s "
  | "PUSHER_APP_ID" => some "1234"
  | "LOGRELAY_EXCHANGE" => some "\u2003a\u3000b\u00a0"
  | "LOGRELAY_WORKERS" => some "+00018446744073709551615"
  | "LOGRELAY_PREFETCH_MULTIPLIER" => some "65535"
  | "DB_CONNECT_TIMEOUT" => some "0"
  | _ => none

/-- What the spaced settings are read as. -/
def ofSpaced : Config where
  broker := ⟨" amqp://localhost ", "reporting.jobs.logs", "a\u3000b", 65535⟩
  database := ⟨"postgresql://localhost/logs", 0, 1⟩
  pusher := ⟨"key", " s ", "1234", "https://api.pusherapp.com", 3, 5⟩
  pool := ⟨18446744073709551615, 60⟩

theorem fromLookup_exported_spaced :
    fromLookup spaced = .ok (ofSpaced, ofSpaced.saturation) ∧
      fromLookup (fun name => ofSpaced.exported.lookup name) =
        .ok (ofSpaced, ofSpaced.saturation) := by
  have hread : fromLookup spaced = .ok (ofSpaced, ofSpaced.saturation) := rfl
  refine ⟨hread, (fromLookup_exported hread).2.2 _ ?_⟩
  rw [Sets]
  decide

end Config

end JobLog
