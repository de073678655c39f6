import JobLog.Broadcast.Pusher
import JobLog.CommandLine.Run
import JobLog.Config.Load

/-!
# What is known of an accepted configuration

A configuration is checked in three places: credentials must be set when they are read, the numbers
and the endpoint are checked afterwards, and the client checks its credentials again.
`Config.check_eq_ok_iff`, `Config.required_eq_ok_iff` and `Pusher.Client.build_eq_ok_iff` say what
each of them lets through. `Config.Accepted` is what all of them agree on; it holds of whatever is
read from variables, also with another number of workers (`CommandLine.accepted_of_configure`).
-/

namespace JobLog

/-- Credentials of which none is blank. -/
structure PusherConfig.Credentialed (c : PusherConfig) : Prop where
  key : Text.allBlank c.key = false
  secret : Text.allBlank c.secret = false
  appId : Text.allBlank c.appId = false

/-- A client is built if and only if no credential is blank. -/
theorem Pusher.Client.build_eq_ok_iff {c : PusherConfig} {client : Client} :
    build c = .ok client ↔ c.Credentialed ∧ client = ofConfig c := by
  constructor
  · intro h
    unfold build at h
    split at h
    · cases h
    · split at h
      · cases h
      · split at h
        · cases h
        -- every secret can key the digest
        · cases h
          exact ⟨⟨Bool.eq_false_iff.2 ‹_›, Bool.eq_false_iff.2 ‹_›, Bool.eq_false_iff.2 ‹_›⟩, rfl⟩
  · rintro ⟨hcredentials, rfl⟩
    simp only [build, hcredentials.key, hcredentials.secret, hcredentials.appId,
      Bool.false_eq_true, if_false, Digest.Hmac.ofKey?]

namespace Config

variable {lookup : Lookup} {c : Config} {name : String}

/-- What is read one after the other is read if both can be. -/
theorem read_bind_eq_ok {α β : Type} {first : Except SettingError α}
    {next : α → Except SettingError β} {b : β} :
    (first >>= next) = .ok b ↔ ∃ a, first = .ok a ∧ next a = .ok b := by
  cases first with
  | error => exact ⟨nofun, nofun⟩
  | ok a => exact ⟨fun h => ⟨a, rfl, h⟩, by rintro ⟨_, ⟨⟩, h⟩; exact h⟩

/-! ## Checking -/

/-- What the check of a configuration demands. -/
structure Valid (c : Config) : Prop where
  workers : 0 < c.pool.workers.toNat
  multiplier : 0 < c.broker.multiplier.toNat
  interval : 0 < c.pool.metricsInterval.toNat
  connections : 0 < c.database.connections.toNat
  queue : c.broker.queue.isEmpty = false
  endpoint : isWebAddress c.pusher.endpoint = true

theorem positive_eq_ok_iff {n : Nat} : positive name n = .ok () ↔ 0 < n := by
  unfold positive
  split
  · subst n
    exact ⟨nofun, nofun⟩
  · exact ⟨fun _ => Nat.pos_of_ne_zero ‹_›, fun _ => rfl⟩

/-- Two checks one after the other succeed if both do. -/
theorem check_bind_eq_ok {first next : Except SettingError Unit} :
    (first >>= fun _ => next) = .ok () ↔ first = .ok () ∧ next = .ok () := by
  rw [read_bind_eq_ok]
  constructor
  · rintro ⟨_, hfirst, hnext⟩
    exact ⟨hfirst, hnext⟩
  · rintro ⟨hfirst, hnext⟩
    exact ⟨(), hfirst, hnext⟩

theorem check_eq_ok_iff : c.check = .ok () ↔ c.Valid := by
  -- The last two checks are conditionals and not calls.
  have hlast : (do
      if c.broker.queue.isEmpty then throw (SettingError.missing "LOGRELAY_QUEUE")
      if isWebAddress c.pusher.endpoint then return ()
      else throw (.invalid "PUSHER_ENDPOINT" ("'" ++ c.pusher.endpoint ++ "' is not an http(s) URL"))
      : Except SettingError Unit) = .ok () ↔
      c.broker.queue.isEmpty = false ∧ isWebAddress c.pusher.endpoint = true := by
    cases c.broker.queue.isEmpty with
    | true => exact ⟨nofun, nofun⟩
    | false =>
        cases isWebAddress c.pusher.endpoint with
        | true => exact ⟨fun _ => ⟨rfl, rfl⟩, fun _ => rfl⟩
        | false => exact ⟨nofun, nofun⟩
  unfold check
  simp only [check_bind_eq_ok, positive_eq_ok_iff]
  rw [hlast]
  exact ⟨fun ⟨hworkers, hmultiplier, hinterval, hconnections, hqueue, hendpoint⟩ =>
      ⟨hworkers, hmultiplier, hinterval, hconnections, hqueue, hendpoint⟩,
    fun h => ⟨h.workers, h.multiplier, h.interval, h.connections, h.queue, h.endpoint⟩⟩

theorem validate_eq_ok_iff {events : List Event} :
    c.validate = .ok events ↔ c.Valid ∧ events = c.saturation := by
  rw [← check_eq_ok_iff, validate]
  cases c.check with
  | error => exact ⟨nofun, nofun⟩
  | ok =>
      exact ⟨by rintro ⟨⟩; exact ⟨rfl, rfl⟩, by rintro ⟨-, rfl⟩; rfl⟩

/-! ## Reading -/

/-- A variable that must be set is read if it is there and not blank. -/
theorem required_eq_ok_iff {value : String} :
    required lookup name = .ok value ↔ lookup name = some value ∧ Text.allBlank value = false := by
  unfold required present?
  cases lookup name with
  | none => exact ⟨nofun, nofun⟩
  | some text =>
      cases hblank : Text.allBlank text with
      | true =>
          simp only [Option.filter_some, hblank, Bool.not_true, Bool.false_eq_true, if_false]
          refine ⟨nofun, ?_⟩
          rintro ⟨⟨⟩, hvalue⟩
          rw [hblank] at hvalue
          cases hvalue
      | false =>
          simp only [Option.filter_some, hblank, Bool.not_false, if_true]
          refine ⟨?_, ?_⟩
          · rintro ⟨⟩
            exact ⟨rfl, hblank⟩
          · rintro ⟨⟨⟩, -⟩
            rfl

/-- Whatever else is read, no credential is blank. -/
theorem credentialed_of_read (h : read lookup = .ok c) : c.pusher.Credentialed := by
  simp only [read, read_bind_eq_ok] at h
  obtain ⟨_, -, _, -, _, -, _, -, _, -, _, -, _, -, key, hkey, secret, hsecret, appId, happId, _, -,
    _, -, _, -, _, -, _, -, hrest⟩ := h
  cases hrest
  exact ⟨(required_eq_ok_iff.1 hkey).2, (required_eq_ok_iff.1 hsecret).2,
    (required_eq_ok_iff.1 happId).2⟩

/-- A configuration that has passed all checks. -/
structure Accepted (c : Config) : Prop where
  valid : c.Valid
  credentials : c.pusher.Credentialed

theorem accepted_of_fromLookup {events : List Event} (h : fromLookup lookup = .ok (c, events)) :
    c.Accepted := by
  unfold fromLookup at h
  split at h
  · cases h
  · rename_i read hread
    split at h
    · cases h
    · rename_i hvalidate
      cases h
      exact ⟨(validate_eq_ok_iff.1 hvalidate).1, credentialed_of_read hread⟩

/-- An accepted configuration always makes a client. -/
theorem Accepted.build (h : c.Accepted) :
    Pusher.Client.build c.pusher = .ok (.ofConfig c.pusher) :=
  Pusher.Client.build_eq_ok_iff.2 ⟨h.credentials, rfl⟩

end Config

namespace CommandLine

variable {lookup : Config.Lookup} {workers : Option Nat} {c other : Config} {events : List Event}

/-- Overriding the number of workers changes nothing else, and the number is checked again. -/
theorem accepted_of_override (haccepted : c.Accepted) (h : override c workers = .ok (other, events)) :
    other.Accepted := by
  cases workers with
  | none =>
      cases h
      exact haccepted
  | some count =>
      unfold override at h
      simp only [Except.map] at h
      split at h
      · cases h
      · rename_i hvalidate
        cases h
        exact ⟨(Config.validate_eq_ok_iff.1 hvalidate).1, haccepted.credentials⟩

/-- The program runs with accepted configurations only. -/
theorem accepted_of_configure (h : configure lookup workers = .ok (c, events)) : c.Accepted := by
  unfold configure at h
  split at h
  · cases h
  · rename_i hread
    split at h
    · cases h
    · rename_i hoverride
      cases h
      exact accepted_of_override (Config.accepted_of_fromLookup hread) hoverride

end CommandLine

end JobLog
