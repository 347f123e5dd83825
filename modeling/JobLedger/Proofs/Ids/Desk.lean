import JobLedger.Proofs.Ids.Numbering
import JobLedger.Proofs.Job.Creation
import JobLedger.Proofs.Json.RoundTrip
import JobLedger.Proofs.Subject.PointInTime

/-!
# Jobs from one source of identifiers

Clients share a source of identifiers and a clock.  They take identifiers for
jobs and for attempts, and they create jobs, from settings of their own or from
settings in JSON.  Creating a job can fail before its identifier is taken, for a
blank name, and afterwards, for a failing clock.

Every order takes one number at most, and what it takes goes to one job, or is
spent, or is handed out.  So over a whole run no two jobs share an identifier.
-/

namespace JobLedger

open IdSource

namespace Settings

/-- The identifier that creating a job takes, if it takes one. -/
def idKind? (settings : Settings) : Option Kind :=
  if settings.IsBlank then none else some .job

/-- What is written of settings is read as these settings. -/
theorem ofJson_toJson (settings : Settings) : ofJson settings.toJson = .ok settings :=
  Json.decode_ofList (read_spells settings)

end Settings

/-- The identifier that is announced when a job is created. -/
def Event.announced? : Event → Option JobId
  | created id _ _ => some id
  | _ => none

/-- What clients share. -/
structure Desk (κ : Type) where
  ids : IdSource
  clock : κ

namespace Desk

/-- What a client wants, or what the clock does meanwhile. -/
inductive Order (κ : Type) where
  | jobId
  | attemptId
  | job (settings : Settings)
  /-- A job from settings in JSON. -/
  | decoded (text : String)
  | elapse (change : κ → κ)

/-- What a client gets. -/
inductive Receipt where
  | jobId (id : JobId)
  | attemptId (id : AttemptId)
  | job (created : Except Refusal (Except Fault Job)) (log : List Event)
  | undecodable (failure : Json.Failure)
  | nothing

section Orders

variable {κ : Type}

/-- The settings from which an order creates a job. -/
def Order.settings? : Order κ → Option Settings
  | job settings => some settings
  | decoded text => (Settings.ofJson text).toOption
  | _ => none

/-- The kind of identifier that an order takes, if it takes one. -/
def Order.kind? : Order κ → Option Kind
  | jobId => some .job
  | attemptId => some .attempt
  | order => order.settings?.bind Settings.idKind?

end Orders

namespace Receipt

/-- The job that was created. -/
def job? : Receipt → Option Job
  | job (.ok (.ok owner)) _ => some owner
  | _ => none

/-- The identifier that was taken for a job that was not created. -/
def spent? : Receipt → Option JobId
  | job (.ok (.error _)) log => log.findSome? Event.announced?
  | _ => none

/-- The text of the identifier that was handed to the client. -/
def handed? : Receipt → Option String
  | jobId id => some id.text
  | attemptId id => some id.text
  | _ => none

/-- The text of the identifier that was taken, whatever became of it. -/
def id? : Receipt → Option String
  | job _ log => (log.findSome? Event.announced?).map JobId.text
  | receipt => receipt.handed?

end Receipt

variable {κ : Type} [Clock κ]

/-- Creates a job. -/
def create (desk : Desk κ) (settings : Settings) : Receipt × Desk κ :=
  let creation := Job.create settings desk.ids desk.clock
  (.job creation.job creation.log, { ids := creation.ids, clock := creation.clock })

/-- Carries out an order. -/
def serve (desk : Desk κ) : Order κ → Receipt × Desk κ
  | .jobId =>
    let (id, ids) := desk.ids.nextJobId
    (.jobId id, { desk with ids })
  | .attemptId =>
    let (id, ids) := desk.ids.nextAttemptId
    (.attemptId id, { desk with ids })
  | .job settings => desk.create settings
  | .decoded text =>
    match Settings.ofJson text with
    | .ok settings => desk.create settings
    | .error failure => (.undecodable failure, desk)
  | .elapse change => (.nothing, { desk with clock := change desk.clock })

/-- Carries out orders one after another. -/
def serveAll (desk : Desk κ) : List (Order κ) → List Receipt × Desk κ
  | [] => ([], desk)
  | order :: rest =>
    let served := desk.serve order
    let later := served.2.serveAll rest
    (served.1 :: later.1, later.2)

/-! ## One order -/

/-- What is true of an order that finds `count` identifiers taken: it takes as
many as its kind says, with the next number, and to one end. -/
structure Accounts (count : Nat) (kind? : Option Kind) (receipt : Receipt) (next : IdSource) :
    Prop where
  source_eq : next = after (count + kind?.toList.length)
  id_eq : count + kind?.toList.length < UInt64.size →
    receipt.id?.toList = numbered (count + 1) kind?.toList
  use_eq : receipt.id?.toList = (receipt.job?.map fun job => job.id.text).toList ++
    ((receipt.spent?.map JobId.text).toList ++ receipt.handed?.toList)

theorem create_accounts {desk : Desk κ} {count : Nat} (taken : desk.ids = after count)
    (settings : Settings) :
    Accounts count settings.idKind? (desk.create settings).1 (desk.create settings).2.ids := by
  by_cases blank : settings.IsBlank
  · have takesNone : settings.idKind? = none := if_pos blank
    simp only [create, Job.create_of_blank blank, takesNone, taken]
    exact ⟨rfl, fun _ => rfl, rfl⟩
  · have takesOne : settings.idKind? = some .job := if_neg blank
    simp only [create, Job.create_of_named blank, takesOne, taken]
    refine ⟨congrArg Prod.snd (draw_after count), ?_, ?_⟩
    · intro fits
      rw [nextJobId_after fits]
      rfl
    · cases (Clock.read desk.clock).1 <;> rfl

theorem serve_accounts {desk : Desk κ} {count : Nat} (taken : desk.ids = after count)
    (order : Order κ) :
    Accounts count order.kind? (desk.serve order).1 (desk.serve order).2.ids := by
  cases order with
  | jobId =>
      simp only [serve, taken]
      refine ⟨congrArg Prod.snd (draw_after count), fun fits => ?_, rfl⟩
      rw [nextJobId_after fits]
      rfl
  | attemptId =>
      simp only [serve, taken]
      refine ⟨congrArg Prod.snd (draw_after count), fun fits => ?_, rfl⟩
      rw [nextAttemptId_after fits]
      rfl
  | job settings => exact create_accounts taken settings
  | decoded text =>
      simp only [serve, Order.kind?, Order.settings?]
      cases Settings.ofJson text with
      | error failure => exact ⟨taken, fun _ => rfl, rfl⟩
      | ok settings => exact create_accounts taken settings
  | elapse change => exact ⟨taken, fun _ => rfl, rfl⟩

/-- A job is created from settings that are not blank, and with their name. -/
theorem job?_serve {desk : Desk κ} {order : Order κ} {owner : Job}
    (created : (desk.serve order).1.job? = some owner) :
    ∃ settings id now, order.settings? = some settings ∧ ¬ settings.IsBlank ∧
      owner = Job.begun settings id now := by
  have fromSettings {settings : Settings} (created : (desk.create settings).1.job? = some owner) :
      ¬ settings.IsBlank ∧ ∃ id now, owner = Job.begun settings id now := by
    by_cases blank : settings.IsBlank
    · rw [create, Job.create_of_blank blank] at created
      contradiction
    · rw [create, Job.create_of_named blank] at created
      refine ⟨blank, desk.ids.nextJobId.1, ?_⟩
      cases reading : (Clock.read desk.clock).1 with
      | none =>
          rw [reading] at created
          contradiction
      | some now =>
          rw [reading] at created
          exact ⟨now, (Option.some.inj created).symm⟩
  cases order with
  | jobId => contradiction
  | attemptId => contradiction
  | elapse change => contradiction
  | job settings =>
      obtain ⟨named, id, now, owner_eq⟩ := fromSettings created
      exact ⟨settings, id, now, rfl, named, owner_eq⟩
  | decoded text =>
      simp only [serve, Order.settings?] at created ⊢
      cases read : Settings.ofJson text with
      | error failure =>
          rw [read] at created
          contradiction
      | ok settings =>
          rw [read] at created
          obtain ⟨named, id, now, owner_eq⟩ := fromSettings created
          exact ⟨settings, id, now, rfl, named, owner_eq⟩

/-! ## Many orders -/

theorem filterMap_cons_eq {α β : Type} (f : α → Option β) (first : α) (rest : List α) :
    (first :: rest).filterMap f = (f first).toList ++ rest.filterMap f := by
  cases found : f first <;> simp [found]

/-- Every receipt is that of its order, served at some time. -/
theorem served_of_mem_zip {desk : Desk κ} {orders : List (Order κ)} {order : Order κ}
    {receipt : Receipt} (member : (order, receipt) ∈ orders.zip (desk.serveAll orders).1) :
    ∃ found : Desk κ, receipt = (found.serve order).1 := by
  induction orders generalizing desk with
  | nil => contradiction
  | cons first rest ih =>
      rcases List.mem_cons.mp member with here | later
      · cases here
        exact ⟨desk, rfl⟩
      · exact ih later

/-- The same of many orders: what they take is numbered from the next number
on, and all of it goes to jobs, is spent or is handed out. -/
theorem serveAll_accounts (orders : List (Order κ)) {desk : Desk κ} {count : Nat}
    (taken : desk.ids = after count)
    (fits : count + (orders.filterMap Order.kind?).length < UInt64.size) :
    let served := desk.serveAll orders
    served.2.ids = after (count + (orders.filterMap Order.kind?).length) ∧
      served.1.filterMap Receipt.id? = numbered (count + 1) (orders.filterMap Order.kind?) ∧
      (served.1.filterMap Receipt.id?).Perm
        ((served.1.filterMap Receipt.job?).map (fun job => job.id.text) ++
          ((served.1.filterMap Receipt.spent?).map JobId.text ++
            served.1.filterMap Receipt.handed?)) := by
  induction orders generalizing desk count with
  | nil => exact ⟨taken, rfl, .nil⟩
  | cons order rest ih =>
      obtain ⟨source_eq, id_eq, use_eq⟩ := serve_accounts taken order
      simp only [filterMap_cons_eq, List.length_append, ← Nat.add_assoc] at fits ⊢
      obtain ⟨last_eq, ids_eq, uses⟩ := ih source_eq fits
      simp only [serveAll, filterMap_cons_eq]
      refine ⟨last_eq, ?_, ?_⟩
      · rw [numbered_append, id_eq (by omega), ids_eq, Nat.add_right_comm]
      · rw [use_eq, List.perm_iff_count]
        intro text
        have counts := List.perm_iff_count.mp uses text
        simp only [List.count_append, List.map_append, Option.toList_map] at counts ⊢
        omega

/-- If no text is drawn twice, no two jobs have one identifier, and none has a
spent one. -/
theorem jobs_apart {jobs : List Job} {spent : List JobId} {drawn handed : List String}
    (once : drawn.Nodup)
    (uses : drawn.Perm (jobs.map (fun job => job.id.text) ++ (spent.map JobId.text ++ handed))) :
    (jobs.map Job.id).Nodup ∧ ∀ id ∈ spent, ∀ owner ∈ jobs, owner.id ≠ id := by
  obtain ⟨jobsOnce, _, apart⟩ := List.nodup_append.mp (uses.nodup_iff.mp once)
  constructor
  · apply List.Nodup.of_map JobId.text
    rw [List.map_map]
    exact jobsOnce
  · intro id isSpent owner isJob same
    have among : id.text ∈ spent.map JobId.text ++ handed :=
      List.mem_append_left _ (List.mem_map_of_mem isSpent)
    exact apart _ (List.mem_map_of_mem isJob) _ among (congrArg JobId.text same)

/-- **Every identifier is drawn once.**  Clients share a new source, from which
fewer than 2^64 identifiers are taken, and a clock that may fail.  Then the
identifiers are numbered in the order in which they are taken, no two have one
text, the source has counted them all, and each goes to a job, is spent, or is
handed out.

A job is refused exactly for a name of white space, and that takes no
identifier, does not read the clock and logs nothing.  Any other name takes one
identifier and one reading of the clock; if that fails, there is no job and the
identifier is spent.  A job has the name from its settings as it stands there,
be they decoded from JSON or not, and keeps it and its identifier whatever is
done with it.  No two jobs have one identifier, and none has a spent one. -/
theorem ids_are_drawn_once {orders : List (Order κ)}
    (few : (orders.filterMap Order.kind?).length < UInt64.size) (clock : κ) :
    let kinds := orders.filterMap Order.kind?
    let served := serveAll ⟨.fresh, clock⟩ orders
    let receipts := served.1
    let drawn := receipts.filterMap Receipt.id?
    let jobs := receipts.filterMap Receipt.job?
    let spent := receipts.filterMap Receipt.spent?
    ((∀ place : Nat, drawn[place]? = kinds[place]?.map fun kind => kind.text (place + 1)) ∧
      drawn.Nodup ∧ served.2.ids.drawn.toNat = drawn.length ∧
      drawn.Perm (jobs.map (fun job => job.id.text) ++
        (spent.map JobId.text ++ receipts.filterMap Receipt.handed?))) ∧
    (∀ (settings : Settings) (ids : IdSource) (moment : κ),
      let creation := Job.create settings ids moment
      ((∃ refusal, creation.job = .error refusal) ↔ settings.IsBlank) ∧
      (settings.IsBlank →
        creation = { job := .error .blankJobName, ids, clock := moment, log := [] }) ∧
      (¬ settings.IsBlank →
        creation.ids = ids.draw.2 ∧ creation.clock = (Clock.read moment).2 ∧
          creation.log = [.created ids.nextJobId.1 settings.jobName settings.jobKind] ∧
          ((Clock.read moment).1 = none → creation.job = .ok (.error .clockFailure)) ∧
          ∀ now, (Clock.read moment).1 = some now →
            creation.job = .ok (.ok (.begun settings ids.nextJobId.1 now)))) ∧
    (∀ settings : Settings, Order.settings? (.decoded settings.toJson : Order κ) = some settings) ∧
    (∀ order receipt owner, (order, receipt) ∈ orders.zip receipts →
      receipt.job? = some owner →
        ∃ settings, order.settings? = some settings ∧ owner.name = settings.jobName ∧
          (∃ c ∈ owner.name.toList, Text.isWhiteSpace c = false) ∧
          ∀ (acts : List (Subject.Act κ)) (moment : κ),
            ∃ later, ((Subject.job owner).run acts moment).state = .job later ∧
              later.name = settings.jobName ∧ later.report.jobName = settings.jobName ∧
              later.id = owner.id) ∧
    (jobs.map Job.id).Nodup ∧ ∀ id ∈ spent, ∀ owner ∈ jobs, owner.id ≠ id := by
  intro kinds served receipts drawn jobs spent
  have fits : 0 + kinds.length < UInt64.size := by rwa [Nat.zero_add]
  let desk : Desk κ := ⟨.fresh, clock⟩
  have accounts := serveAll_accounts orders (show desk.ids = after 0 from after_zero.symm) fits
  have last_eq : served.2.ids = after (0 + kinds.length) := accounts.1
  have drawn_eq : drawn = numbered 1 kinds := accounts.2.1
  have uses : drawn.Perm (jobs.map (fun job => job.id.text) ++
      (spent.map JobId.text ++ receipts.filterMap Receipt.handed?)) := accounts.2.2
  have once : drawn.Nodup := by
    rw [drawn_eq]
    exact nodup_numbered 1 kinds
  have counted : served.2.ids.drawn.toNat = drawn.length := by
    rw [last_eq, drawn_eq, length_numbered, Nat.zero_add]
    exact UInt64.toNat_ofNat_of_lt' few
  refine ⟨⟨?_, once, counted, uses⟩, ?_, ?_, ?_, jobs_apart once uses⟩
  · intro place
    rw [drawn_eq, getElem?_numbered, Nat.add_comm 1]
  · intro settings ids moment
    exact Job.create_by_name settings ids moment
  · intro settings
    simp only [Order.settings?, Settings.ofJson_toJson]
    rfl
  · intro order receipt owner member created
    obtain ⟨found, rfl⟩ := served_of_mem_zip member
    obtain ⟨settings, id, now, settings_eq, named, rfl⟩ := job?_serve created
    refine ⟨settings, settings_eq, rfl, settings.not_isBlank_iff.mp named, ?_⟩
    intro acts moment
    obtain ⟨later, state_eq, continues, _⟩ :=
      Subject.run_job (Job.begun settings id now) acts moment
    exact ⟨later, state_eq, continues.name_eq, continues.name_eq, continues.id_eq⟩

/-- A creation that the clock stops, one with a blank name, and one from JSON
with white space around the name, among orders for identifiers. -/
theorem ids_are_drawn_once_despite_failures :
    let orders : List (Order ManualClock) :=
      [.attemptId, .job ⟨"a", .batch⟩, .elapse ManualClock.failNext, .job ⟨"b", .batch⟩,
        .job ⟨" \u00a0", .batch⟩, .decoded "\x7b\"job_name\": \" c \"\x7d", .jobId]
    let receipts := (serveAll ⟨.fresh, .starting 100⟩ orders).1
    let drawn := receipts.filterMap Receipt.id?
    let jobs := receipts.filterMap Receipt.job?
    (orders.filterMap Order.kind?).length < UInt64.size ∧
      drawn = ["attempt-1", "job-2", "job-3", "job-4", "job-5"] ∧ drawn.Nodup ∧
      jobs.map (fun owner => (owner.id, owner.name)) = [(⟨"job-2"⟩, "a"), (⟨"job-4"⟩, " c ")] ∧
      receipts.filterMap Receipt.spent? = [⟨"job-3"⟩] ∧ ∀ owner ∈ jobs, owner.id ≠ ⟨"job-3"⟩ := by
  intro orders receipts drawn jobs
  have few : (orders.filterMap Order.kind?).length < UInt64.size := by decide +kernel
  have spent : receipts.filterMap Receipt.spent? = [⟨"job-3"⟩] := by decide +kernel
  obtain ⟨⟨_, once, _, _⟩, _, _, _, _, apart⟩ := ids_are_drawn_once few (.starting 100)
  refine ⟨few, by decide +kernel, once, by decide +kernel, spent, ?_⟩
  apply apart
  rw [spent]
  exact List.mem_singleton.mpr rfl

end Desk

end JobLedger
