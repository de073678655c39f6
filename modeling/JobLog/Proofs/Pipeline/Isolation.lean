import JobLog.Proofs.Pipeline.Fidelity
import JobLog.Proofs.Pipeline.Refinement

/-!
# Jobs do not see each other

As long as the answers of the store and the broadcaster do not change, what is announced for a
message is decided by its body alone, and it is announced on the channel of the job that the body is
a part of. Different jobs have different channels. So what the viewers of a job see is what they
would see if there were no messages but those of their job: `World.announced_isolated`.
-/

namespace JobLog

/-- Whether a message body is a part of this job. -/
def Part.isOf (job : Int64) (body : Json.Bytes) : Bool :=
  match Part.parse body with
  | .ok part => part.job = job
  | .error _ => false

/-- Different jobs have different channels, since an id can be read back from its digits. -/
theorem channel_inj {job other : Int64} : channel job = channel other ↔ job = other := by
  refine ⟨fun h => ?_, congrArg channel⟩
  have hread (id : Int64) : Decodes (toString id.toInt) (.integer id.toInt) :=
    Json.Value.parse_render (plain_word _ id)
  have hdigits : toString job.toInt = toString other.toInt := (String.append_right_inj _).1 h
  have hsame := (hread job).symm.trans (hdigits ▸ hread other)
  injection hsame with hvalue
  injection hvalue with hnumber
  injection hnumber with hid
  exact Int64.toInt_inj.1 hid

namespace Account

variable (memory : Memory)

/-- Whether an announcement is for the viewers of a job. -/
def isFor (job : Int64) (a : Announcement) : Bool :=
  a.channel = channel job

/-- For a part nothing is announced but the part itself. -/
theorem eq_announcement_of_mem_ofStoring {part : Part} {log : Int64} {a : Announcement}
    (h : a ∈ (ofStoring memory part log).announced) : a = Task.announcement part := by
  unfold ofStoring at h
  split at h
  · cases h
  · unfold ofAnnouncing at h
    split at h
    · cases h
    · exact List.mem_singleton.1 h

/-- What is announced for a message is the part that its body is. -/
theorem exists_part_of_mem_ofBody {body : Json.Bytes} {a : Announcement}
    (h : a ∈ (ofBody memory body).announced) :
    ∃ part, Part.parse body = .ok part ∧ a = Task.announcement part := by
  unfold ofBody at h
  split at h
  · cases h
  · rename_i part hparse
    refine ⟨part, hparse, ?_⟩
    unfold ofResolving at h
    split at h
    · cases h
    · exact eq_announcement_of_mem_ofStoring memory h

/-- A message is announced to the viewers of its job and to nobody else. -/
theorem filter_announced_ofBody (job : Int64) (body : Json.Bytes) :
    (ofBody memory body).announced.filter (isFor job) =
      if Part.isOf job body then (ofBody memory body).announced else [] := by
  have hfor {a : Announcement} (ha : a ∈ (ofBody memory body).announced) :
      isFor job a = Part.isOf job body := by
    obtain ⟨part, hparse, rfl⟩ := exists_part_of_mem_ofBody memory ha
    simp only [isFor, Part.isOf, hparse, Task.announcement, channel_inj]
  split
  · rename_i hof
    exact List.filter_eq_self.2 fun a ha => (hfor ha).trans hof
  · rename_i hof
    exact List.filter_eq_nil_iff.2 fun a ha => (hfor ha).symm ▸ hof

/-- Accounts are put one after another, and so is what they announce. -/
theorem announced_sum (accounts : List Account) :
    accounts.sum.announced = accounts.flatMap announced := by
  induction accounts with
  | nil => rfl
  | cons first later ih => rw [List.sum_cons, add_def, List.flatMap_cons, ← ih]

/-- What the viewers of a job see of some messages are the messages of the job. -/
theorem filter_announced_sum (job : Int64) (bodies : List Json.Bytes) :
    (bodies.map (ofBody memory)).sum.announced.filter (isFor job) =
      ((bodies.filter (Part.isOf job)).map (ofBody memory)).sum.announced := by
  simp only [announced_sum, List.flatMap_map]
  induction bodies with
  | nil => rfl
  | cons body bodies ih =>
      rw [List.flatMap_cons, List.filter_append, ih, filter_announced_ofBody, List.filter_cons]
      split
      · rw [List.flatMap_cons]
      · rfl

end Account

/-- What is announced while messages are handled one after another. -/
theorem World.announced_handleAll {memory : Memory} {w : World Memory} (latency : Latency)
    (worker : Nat) (bodies : List Json.Bytes) (hfits : w.Fits memory) :
    (w.handleAll (Memory.systems latency) worker bodies).systems.board.announced =
      w.systems.board.announced ++ (bodies.map (Account.ofBody memory)).sum.announced :=
  congrArg Account.announced (handleAll_conserves latency worker bodies hfits).2

/-- Jobs are isolated: whatever logs jobs have and whichever calls fail, what is announced on a job's
channel while messages are handled is what is announced if only the messages of that job are handled,
all of it and in the same order; and no other job has this channel. -/
theorem World.announced_isolated (logs : List (Int64 × Int64))
    (lookupFault insertFault fault : Option String) (latency alone : Latency) (worker : Nat)
    (bodies : List Json.Bytes) (job : Int64) :
    (((prepared logs lookupFault insertFault fault).handleAll (Memory.systems latency) worker
        bodies).systems.board.announced.filter fun a => a.channel = channel job) =
      ((prepared logs lookupFault insertFault fault).handleAll (Memory.systems alone) worker
        (bodies.filter (Part.isOf job))).systems.board.announced ∧
    ∀ other, channel other = channel job → other = job := by
  have hfits := fits_prepared logs lookupFault insertFault fault
  refine ⟨?_, fun other => channel_inj.1⟩
  rw [announced_handleAll latency worker bodies hfits,
    announced_handleAll alone worker (bodies.filter (Part.isOf job)) hfits]
  exact Account.filter_announced_sum _ job bodies

end JobLog
