import Mathlib.Data.List.Induction
import Mathlib.Logic.Basic
import TnsClient.Proofs.Client.Cursors
import TnsClient.Proofs.Client.Invariant
import TnsClient.Proofs.Client.RoundTrip

set_option autoImplicit false

/-!
# No cursor is lost

A server that opens a cursor keeps it until it is told to close it. So a client has to know of every
cursor that it was told of, either as one that it keeps or as one that waits to be closed, and must
not use one that it is about to close. It does, as long as the server is honest: for a statement it
names the cursor that the statement was sent with, or one new cursor.

## Main definitions

* `TnsClient.Account` — the cursors of the statement in flight; `TnsClient.Account.Honest` — the
  server names no others.
* `TnsClient.Moment.Settles` — the answer to a statement is over, and so is the statement.
* `TnsClient.Client.Accounted` — a client and the account of its run agree.

## Main results

* `TnsClient.Client.Transition.accounted` — every kind of step keeps client and account in
  agreement.
* `TnsClient.Client.cursors_conserved` — the cursors of every run.
-/

namespace TnsClient

/-! ## What the server says -/

/-- Whether a task is a statement. -/
def Task.isStatement : Task → Bool
  | statement .. => true
  | _ => false

/-- The cursor that an event names for the statement in flight. -/
def Client.names? (client : Client) : Event → Option UInt16
  | .message message =>
    if client.inFlight.any fun flight => flight.task.isStatement then message.cursor? else none
  | _ => none

/-- The cursor that is named for the statement in flight at a moment. -/
def Moment.names? (moment : Moment) : Option UInt16 := moment.before.names? moment.event

/-- The cursor that a request uses. -/
def Request.cursor? : Request → Option UInt16
  | .statement request => some request.cursor
  | .fetch cursor .. => some cursor
  | _ => none

/-- The cursor that is used by what is sent. -/
def Action.cursor? : Action → Option UInt16
  | .send request => request.cursor?
  | _ => none

/-- What client and server have said about the cursor of the statement that was sent last. -/
structure Account where
  /-- The cursor that it was sent with, 0 if it was sent without. -/
  sent : UInt16 := 0
  /-- The cursors that the server has named for it. -/
  named : List UInt16 := []

namespace Account

/-- The account behind an action and the cursor that was named before it. A statement that is sent
begins a new account. -/
def next (account : Account) (named : Option UInt16) : Action → Account
  | .send (.statement request) => { sent := request.cursor }
  | _ => { account with named := account.named ++ named.toList }

/-- The account behind a moment. -/
def enter (account : Account) (moment : Moment) : Account :=
  account.next moment.names? moment.step.action

/-- The account behind some moments of a run, from the beginning on. -/
def behind (moments : List Moment) : Account := moments.foldl Account.enter {}

/-- The server may name a cursor for a statement: the cursor that the statement was sent with, or a
new one, of which there is one for each statement, and which is named ever after. -/
def Admits (account : Account) (client : Client) (cursor : UInt16) : Prop :=
  (∀ other ∈ account.named, other ≠ account.sent → cursor = other) ∧
    (cursor = account.sent ∨ cursor ∈ account.named ∨ cursor ∉ client.cursors)

/-- The server is honest: whatever it names it may name. -/
def Honest (account : Account) : List Moment → Prop
  | [] => True
  | moment :: moments =>
    (∀ cursor ∈ moment.names?, account.Admits moment.before cursor) ∧
      (account.enter moment).Honest moments

-- decided along the lists and not over all cursors there may be
instance (account : Account) (client : Client) (cursor : UInt16) :
    Decidable (account.Admits client cursor) :=
  @instDecidableAnd _ _ (List.decidableBAll _ _) inferInstance

instance decidableHonest : (account : Account) → (moments : List Moment) →
    Decidable (account.Honest moments)
  | _, [] => isTrue trivial
  | account, moment :: moments =>
    @instDecidableAnd _ _ (Option.decidableForallMem _)
      (decidableHonest (account.enter moment) moments)

lemma honest_append {account : Account} {past rest : List Moment} :
    account.Honest (past ++ rest) ↔
      account.Honest past ∧ (past.foldl Account.enter account).Honest rest := by
  induction past generalizing account with
  | nil => simp [Honest]
  | cons moment past ih => simp [Honest, ih, and_assoc]

lemma next_none {account : Account} {action : Action}
    (haction : ∀ request, action ≠ .send (.statement request)) :
    account.next none action = account := by
  unfold next
  split
  · next request => exact absurd rfl (haction request)
  · simp

end Account

/-- The answer to the statement in flight is over, and its caller learns the outcome. -/
def Moment.Settles (moment : Moment) : Prop :=
  moment.answers = true ∧ ∃ flight request handle outcome, moment.before.inFlight = some flight ∧
    flight.task = .statement request handle ∧ ⟨handle, outcome⟩ ∈ moment.step.resolved

namespace Client

/-- The account of a statement in flight: it was sent with this cursor, and the server has named no
other one but the one that is known for it now. -/
structure Follows (account : Account) (flight : InFlight) (request : StatementRequest) : Prop where
  sent : account.sent = request.cursor
  named : ∀ cursor ∈ account.named, cursor = request.cursor ∨ cursor = flight.result.cursor

/-- A client and the account of its run agree. -/
structure Accounted (account : Account) (client : Client) : Prop where
  keeps : client.Keeps
  plain : ∀ task ∈ client.queue.tasks, task.IsPlain
  uses : ∀ flight request handle, client.inFlight = some flight →
    flight.task = .statement request handle →
      flight.Uses client request ∧ Follows account flight request

variable {client other : Client} {account : Account} {flight : InFlight}
  {request : StatementRequest} {handle : Handle} {event : Event} {step : Step}

/-! ## Steps -/

/-- A client that keeps the same cursors and lets at most those go that wait to be closed. -/
lemma cursors_sublist (hstatements : other.statements = client.statements)
    (hclosing : other.cleanup.cursors = client.cleanup.cursors ∨ other.cleanup.cursors = []) :
    other.cursors.Sublist client.cursors := by
  unfold cursors
  rw [hstatements]
  rcases hclosing with hsame | hnone
  · rw [hsame]
  · rw [hnone]
    exact (List.nil_sublist _).append_left _

lemma Keeps.frame (h : client.Keeps) (hstatements : other.statements = client.statements)
    (hclosing : other.cleanup.cursors = client.cleanup.cursors ∨ other.cleanup.cursors = []) :
    other.Keeps := by
  have hsublist := cursors_sublist hstatements hclosing
  exact ⟨hstatements ▸ h.cache, hstatements ▸ h.cacheable, h.distinct.sublist hsublist,
    fun hmem => h.nonzero (hsublist.subset hmem)⟩

/-- For such a client a statement in flight uses the same cursors. -/
lemma uses_frame (h : flight.Uses client request)
    (hstatements : other.statements = client.statements)
    (hclosing : other.cleanup.cursors = client.cleanup.cursors ∨ other.cleanup.cursors = []) :
    flight.Uses other request :=
  ⟨h.kind, hstatements ▸ h.sent,
    h.distinct.sublist ((cursors_sublist hstatements hclosing).append_left _), h.nonzero⟩

/-- A client that has nothing in flight agrees with any account. -/
lemma accounted_of_spare (hkeeps : client.Keeps)
    (hplain : ∀ task ∈ client.queue.tasks, task.IsPlain) (hflight : client.inFlight = none) :
    Accounted account client where
  keeps := hkeeps
  plain := hplain
  uses := by simp [hflight]

/-- No cursor is named, no statement is sent, and the task in flight stays the same. -/
lemma Accounted.frame (h : Accounted account client) {named : Option UInt16} {action : Action}
    (hnamed : named = none) (haction : ∀ request, action ≠ .send (.statement request))
    (hstatements : other.statements = client.statements)
    (hcleanup : other.cleanup = client.cleanup)
    (hplain : ∀ task ∈ other.queue.tasks, task.IsPlain)
    (hflight : other.inFlight = client.inFlight) :
    Accounted (account.next named action) other where
  keeps := h.keeps.frame hstatements (.inl (congrArg Cleanup.cursors hcleanup))
  plain := hplain
  uses := by
    intro flight request handle hother htask
    rw [hnamed, Account.next_none haction]
    obtain ⟨huses, hfollows⟩ := h.uses flight request handle (hflight ▸ hother) htask
    exact ⟨uses_frame huses hstatements (.inl (congrArg Cleanup.cursors hcleanup)), hfollows⟩

/-- **What the server says** of a statement in flight goes into the account. -/
lemma Accounted.hear (h : Accounted account client) {message : ServerMessage}
    (hflight : client.inFlight = some flight) (htask : flight.task = .statement request handle)
    (hadmits : ∀ cursor, client.names? (.message message) = some cursor →
      account.Admits client cursor) :
    (flight.hear message).Uses client request ∧
      Follows { account with named := account.named ++ (client.names? (.message message)).toList }
        (flight.hear message) request := by
  obtain ⟨huses, hsent, hnamed⟩ := h.uses flight request handle hflight htask
  have hnames : client.names? (.message message) = message.cursor? := by
    simp [names?, hflight, htask, Task.isStatement]
  have hcursor := flight.hear_cursor message
  rw [hnames] at hadmits ⊢
  rcases hmessage : message.cursor? with _ | cursor
  · -- nothing is named, and nothing changes
    rw [hmessage, Option.getD_none] at hcursor
    have hfresh : (flight.hear message).fresh request = flight.fresh request := by
      unfold InFlight.fresh
      rw [hcursor]
    refine ⟨⟨huses.kind, huses.sent, hfresh ▸ huses.distinct, hfresh ▸ huses.nonzero⟩, hsent, ?_⟩
    simpa [hcursor] using hnamed
  · rw [hmessage, Option.getD_some] at hcursor
    obtain ⟨hlast, hnew⟩ := hadmits cursor hmessage
    have hzero : cursor ≠ 0 := by
      unfold ServerMessage.cursor? at hmessage
      split at hmessage
      · split_ifs at hmessage with hblock
        exact Option.some.inj hmessage ▸ hblock
      · cases hmessage
    refine ⟨⟨huses.kind, huses.sent, ?_, ?_⟩, hsent, ?_⟩
    · unfold InFlight.fresh
      rw [hcursor]
      by_cases hsame : cursor = request.cursor
      · rw [if_pos hsame]
        exact h.keeps.distinct
      · rw [if_neg hsame]
        rcases hnew with hold | hold | hnew
        · exact absurd (hold.trans hsent) hsame
        · -- the cursor that is known already
          have hknown : cursor = flight.result.cursor := (hnamed cursor hold).resolve_left hsame
          have hdistinct := huses.distinct
          unfold InFlight.fresh at hdistinct
          rwa [← hknown, if_neg hsame] at hdistinct
        · exact List.nodup_cons.2 ⟨hnew, h.keeps.distinct⟩
    · unfold InFlight.fresh
      rw [hcursor]
      split_ifs
      · exact List.not_mem_nil
      · exact fun hmem => hzero (List.mem_singleton.1 hmem).symm
    · intro other hother
      rw [hcursor]
      rcases List.mem_append.1 hother with hold | hother
      · by_cases hsame : other = account.sent
        · exact .inl (hsame.trans hsent)
        · exact .inr (hlast other hold hsame).symm
      · exact .inr (by simpa using hother)

/-- The negotiation and the logon are not about cursors. -/
lemma SetupStep.cursors {asked : Request} (h : client.SetupStep other asked) :
    other.statements = client.statements ∧ other.cleanup = client.cleanup := by
  cases h <;> exact ⟨rfl, rfl⟩

/-- **Starting the next task** changes no cursor, and begins a new account if it is a statement. -/
lemma startNext_accounted (hqueue : client.queue.WellFormed) (hkeeps : client.Keeps)
    (hplain : ∀ task ∈ client.queue.tasks, task.IsPlain) (hflight : client.inFlight = none)
    (hphase : client.phase = .ready ∨ client.phase = .inFlight) (named : Option UInt16) :
    client.startNext.client.cursors.Perm client.cursors ∧
      Accounted (account.next named client.startNext.action) client.startNext.client := by
  have hsplits := front_splits hqueue
  have hheld : ∀ task ∈ client.front.queue.tasks, task.IsPlain := fun task hmem =>
    hplain task (hsplits.tasks_perm.mem_iff.2 (List.mem_append_right _ hmem))
  rcases startNext_cases hflight hphase with ⟨-, hstep⟩ | ⟨task, htask, hstep⟩ <;> rw [hstep]
  · refine ⟨List.Perm.refl _, accounted_of_spare ?_ hheld hflight⟩
    exact hkeeps.frame rfl (.inl rfl)
  · have hfront : task.IsPlain := by
      refine hplain task (hsplits.tasks_perm.mem_iff.2 ?_)
      rw [htask]
      simp
    obtain ⟨hperm, hlaunched⟩ := launched_keeps hkeeps task
    refine ⟨hperm, hlaunched, hheld, fun flight request handle hlaunch hstatement => ?_⟩
    obtain rfl := Option.some.inj hlaunch
    obtain ⟨huses, hcursor⟩ := launched_uses hkeeps hfront hstatement
    refine ⟨huses, ?_⟩
    -- a new account, in which the server has not said anything
    rw [hstatement]
    exact ⟨rfl, by simp [Account.next, Task.request]⟩

/-- **A task that is done** leaves its new cursor behind if it is a statement, and the next one is
started. -/
lemma finish_accounted (hsound : client.Sound) (h : Accounted account client)
    (hphase : client.phase = flight.task.phase)
    (huses : ∀ request handle, flight.task = .statement request handle →
      flight.Uses client request) (named : Option UInt16) :
    let step := ({ client with awaiting := false, inFlight := none } : Client).finish flight
    (∀ request handle, flight.task = .statement request handle →
      step.client.cursors.Perm (flight.fresh request ++ client.cursors)) ∧
        Accounted (account.next named step.action) step.client := by
  intro step
  let spare : Client := { client with awaiting := false, inFlight := none }
  have hkeeps : spare.Keeps := h.keeps.frame rfl (.inl rfl)
  rcases flight.task.phase_cases with hinFlight | hclosing
  · have hsettled : (spare.settleCursor flight).Keeps ∧
        ∀ request handle, flight.task = .statement request handle →
          (spare.settleCursor flight).cursors.Perm (flight.fresh request ++ client.cursors) := by
      cases htask : flight.task with
      | statement request handle =>
        have huses' : flight.Uses spare request :=
          uses_frame (huses request handle htask) rfl (.inl rfl)
        obtain ⟨hperm, hsettled⟩ := settleCursor_cursors hkeeps htask huses'
        refine ⟨hsettled, fun other handle' hother => ?_⟩
        obtain ⟨rfl, -⟩ := Task.statement.inj hother
        exact hperm
      | _ =>
        have hsame : spare.settleCursor flight = spare := by simp [settleCursor, htask]
        rw [hsame]
        exact ⟨hkeeps, by simp⟩
    obtain ⟨statements, cleanup, hclient⟩ := settleCursor_eq spare flight
    have hqueue : (spare.settleCursor flight).queue = client.queue := by rw [hclient]
    have hspare : (spare.settleCursor flight).inFlight = none := by rw [hclient]
    have hturn : (spare.settleCursor flight).phase = client.phase := by rw [hclient]
    have hnext : (spare.settleCursor flight).startNext.client.cursors.Perm _ ∧
        Accounted (account.next named (spare.settleCursor flight).startNext.action) _ :=
      startNext_accounted (hqueue ▸ hsound.queue) hsettled.1 (hqueue ▸ h.plain) hspare
        (.inr (hturn.trans (hphase.trans hinFlight))) named
    have hstep : step = { (spare.settleCursor flight).startNext with
        resolved := flight.task.resolve flight.outcome ++
          (spare.settleCursor flight).startNext.resolved } := finish_of_inFlight spare hinFlight
    rw [hstep]
    exact ⟨fun request handle htask => hnext.1.trans (hsettled.2 request handle htask), hnext.2⟩
  · have hstep : step = _ := finish_close spare hclosing
    rw [hstep]
    obtain ⟨-, hempty, -⟩ := TaskQueue.drain_tasks hsound.queue
    refine ⟨fun request handle htask => ?_, accounted_of_spare ?_ (by simp [spare, hempty]) rfl⟩
    · simp [htask, Task.phase] at hclosing
    · exact h.keeps.frame rfl (.inl rfl)

/-- Nothing changes in the exchange. If a cursor is named nevertheless, it is known already. -/
lemma Alike.accounted (h : client.Alike other) (hsound : client.Sound)
    (haccount : Accounted account client) {action : Action}
    (haction : action = .wait ∨ action = .reset)
    (hclosing : other.cleanup.cursors = client.cleanup.cursors ∨ other.cleanup.cursors = [])
    (hunheard : client.Unheard event)
    (hadmits : ∀ cursor, client.names? event = some cursor → account.Admits client cursor) :
    Accounted (account.next (client.names? event) action) other := by
  have hstatements := h.statements.symm
  refine ⟨haccount.keeps.frame hstatements hclosing, h.queue ▸ haccount.plain,
    fun flight request handle hflight htask => ?_⟩
  have hbefore : client.inFlight = some flight := h.inFlight ▸ hflight
  have hlogon := (hsound.phase_of_inFlight hbefore).2.1
  have hnext : account.next (client.names? event) action =
      { account with named := account.named ++ (client.names? event).toList } := by
    rcases haction with rfl | rfl <;> rfl
  rw [hnext]
  cases event with
  | message message =>
    have hheard := hunheard message rfl hlogon flight hbefore
    obtain ⟨huses, hfollows⟩ := haccount.hear hbefore htask hadmits
    rw [hheard] at huses hfollows
    exact ⟨uses_frame huses hstatements hclosing, hfollows⟩
  | _ =>
    obtain ⟨huses, hfollows⟩ := haccount.uses flight request handle hbefore htask
    refine ⟨uses_frame huses hstatements hclosing, ?_⟩
    simpa [names?] using hfollows

/-- **Every kind of step** keeps client and account in agreement, as long as the server is
honest. -/
lemma Transition.accounted (h : client.Transition event step) (hsound : client.Sound)
    (haccount : Accounted account client)
    (hplain : ∀ task, event = .submit task → task.IsPlain)
    (hadmits : ∀ cursor, client.names? event = some cursor → account.Admits client cursor) :
    Accounted (account.next (client.names? event) step.action) step.client := by
  have hpush : ∀ task, event = .submit task →
      ∀ other ∈ (client.queue.push task).2.tasks, other.IsPlain := by
    intro task htask other hmem
    rcases List.mem_append.1 ((TaskQueue.push_tasks hsound.queue task).mem_iff.1 hmem) with
      hmem | hmem
    · exact haccount.plain other hmem
    · obtain rfl := List.mem_singleton.1 hmem
      exact hplain _ htask
  cases h with
  | quiet _ halike haction _ hclosing hunheard =>
    exact halike.accounted hsound haccount haction hclosing hunheard hadmits
  | abandoned =>
    exact haccount.frame rfl (by simp [idle]) rfl rfl haccount.plain rfl
  | resent =>
    have hnames : client.names? (.message .resend) = none := by
      simp [names?, ServerMessage.cursor?]
    exact haccount.frame hnames (by simp) rfl rfl haccount.plain rfl
  | setup _ hstep =>
    obtain ⟨-, hflight, hqueue, -⟩ := hstep.frame hsound
    obtain ⟨hstatements, hcleanup⟩ := hstep.cursors
    refine accounted_of_spare (haccount.keeps.frame hstatements (.inl ?_)) ?_ hflight
    · exact congrArg Cleanup.cursors hcleanup
    · intro task hmem
      exact haccount.plain task (hqueue ▸ hmem)
  | established hphase =>
    have hflight := hsound.inFlight_eq_none (by simp [hphase]) (by simp [hphase])
    exact accounted_of_spare (haccount.keeps.frame rfl (.inl rfl)) haccount.plain hflight
  | @heard message flight flight' hflight htask hheard =>
    refine ⟨haccount.keeps.frame rfl (.inl rfl), haccount.plain,
      fun other request handle hother hstatement => ?_⟩
    obtain rfl := Option.some.inj hother
    obtain ⟨huses, hfollows⟩ := haccount.hear hflight (htask ▸ hstatement) hadmits
    rw [← hheard] at huses hfollows
    exact ⟨uses_frame huses rfl (.inl rfl), hfollows⟩
  | @failed _ error _ _ _ =>
    cases hover : client.phase.isOver
    · rw [fail_eq error hover]
      exact accounted_of_spare (haccount.keeps.frame rfl (.inl rfl))
        (by simp [(TaskQueue.drain_tasks hsound.queue).2.1]) rfl
    · rw [fail_of_over error hover]
      exact accounted_of_spare (haccount.keeps.frame rfl (.inl rfl)) haccount.plain
        (hsound.inFlight_of_over hover)
  | lost =>
    by_cases hclosed : client.phase = .closed
    · rw [lost_of_closed hclosed]
      have hover : client.phase.isOver = true := by rw [hclosed]; rfl
      exact accounted_of_spare haccount.keeps haccount.plain (hsound.inFlight_of_over hover)
    · rw [lost_eq hclosed]
      exact accounted_of_spare (haccount.keeps.frame rfl (.inl rfl))
        (by simp [(TaskQueue.drain_tasks hsound.queue).2.1]) rfl
  | refused =>
    exact haccount.frame rfl (by simp) rfl rfl haccount.plain rfl
  | joinedFlight =>
    refine ⟨haccount.keeps.frame rfl (.inl rfl), haccount.plain,
      fun flight request handle hother hstatement => ?_⟩
    obtain rfl := Option.some.inj hother
    simp at hstatement
  | @joinedWaiting handles others id _ hwaiting =>
    have htasks := TaskQueue.replace_tasks (TaskQueue.task?_of_find? hwaiting)
      (.ping (others ++ handles))
    refine haccount.frame rfl (by simp [idle]) rfl rfl (fun task hmem => ?_) rfl
    rcases List.mem_cons.1 (htasks.mem_iff.2 (List.mem_cons_of_mem _ hmem)) with rfl | hmem
    · trivial
    · exact haccount.plain task hmem
  | waited =>
    exact haccount.frame rfl (by simp [idle]) rfl rfl (hpush _ rfl) rfl
  | @served task _ hphase hflight =>
    have hkeeps : ({ client with queue := (client.queue.push task).2 } : Client).Keeps :=
      haccount.keeps.frame rfl (.inl rfl)
    exact (startNext_accounted (TaskQueue.push_wellFormed hsound.queue task) hkeeps (hpush task rfl)
      hflight (.inl hphase) none).2
  | turned hflight hphase =>
    exact (startNext_accounted hsound.queue haccount.keeps haccount.plain hflight hphase none).2
  | @cancelled id task queue hremove =>
    refine haccount.frame rfl (by simp) rfl rfl (fun other hmem => haccount.plain other ?_) rfl
    exact (TaskQueue.remove_tasks hremove).mem_iff.2 (List.mem_cons_of_mem _ hmem)
  | @fetched message flight flight' asked hflight htask hends hfetch hheard =>
    obtain ⟨statement, handle, -, rfl⟩ := fetch?_eq_some hfetch
    refine ⟨haccount.keeps.frame rfl (.inl rfl), haccount.plain,
      fun other request handle hother hstatement => ?_⟩
    obtain rfl := Option.some.inj hother
    obtain ⟨huses, hfollows⟩ := haccount.hear hflight (htask ▸ hstatement) hadmits
    rw [← hheard] at huses hfollows
    exact ⟨⟨huses.kind, huses.sent, huses.distinct, huses.nonzero⟩, hfollows.sent, hfollows.named⟩
  | @finished message flight flight' hflight htask hends hfetch hheard =>
    have hphase : client.phase = flight'.task.phase := by rw [htask, hsound.busy flight hflight]
    refine (finish_accounted hsound haccount hphase (fun request handle hstatement => ?_) _).2
    rw [hheard]
    exact (haccount.hear hflight (htask ▸ hstatement) hadmits).1

/-- A statement that is done leaves all its cursors with the client: the one that it was sent with,
and those that the server has named. -/
lemma Transition.settled (h : client.Transition event step) (hsound : client.Sound)
    (haccount : Accounted account client)
    (hadmits : ∀ cursor, client.names? event = some cursor → account.Admits client cursor)
    {message : ServerMessage} (hevent : event = .message message)
    (hends : endsAnswer client.capabilities.endOfResponse message = true)
    (hflight : client.inFlight = some flight) (htask : flight.task = .statement request handle)
    (hresolved : step.resolved ≠ []) {cursor : UInt16} (hzero : cursor ≠ 0)
    (hcursor : cursor = account.sent ∨ cursor ∈ account.named ∨
      client.names? event = some cursor) : cursor ∈ step.client.cursors := by
  cases h with
  | quiet | resent | setup | established | heard | fetched => exact absurd rfl hresolved
  | failed _ _ hopen =>
    rcases hopen message hevent with hother | hlogon
    · rw [hother] at hends
      cases hends
    · rw [(hsound.phase_of_inFlight hflight).2.1] at hlogon
      cases hlogon
  | @finished _ flight₁ flight' hflight' htask' _ _ hheard =>
    obtain rfl := Option.some.inj (hflight.symm.trans hflight')
    have hphase : client.phase = flight'.task.phase := by rw [htask', hsound.busy flight hflight]
    obtain ⟨huses, hfollows⟩ := haccount.hear hflight htask hadmits
    rw [← hheard] at huses hfollows
    have hsettled := (finish_accounted hsound haccount hphase (fun other handle' hother => by
      obtain ⟨rfl, -⟩ := Task.statement.inj ((htask'.trans htask).symm.trans hother)
      exact huses) none).1 request handle (htask'.trans htask)
    rw [hsettled.mem_iff, List.mem_append]
    have hknown : cursor = request.cursor ∨ cursor = flight'.result.cursor := by
      rcases hcursor with rfl | hnamed | hnamed
      · exact .inl hfollows.sent
      · exact hfollows.named cursor (List.mem_append_left _ hnamed)
      · refine hfollows.named cursor (List.mem_append_right _ ?_)
        rw [hnamed]
        exact List.mem_singleton_self _
    have hsent : request.cursor ≠ 0 → request.cursor ∈ client.cursors := fun hzero =>
      List.mem_append_left _ (sent_mem huses hzero)
    rcases hknown with rfl | rfl
    · exact .inr (hsent hzero)
    · unfold InFlight.fresh
      split_ifs with hsame
      · exact .inr (hsame ▸ hsent (hsame ▸ hzero))
      · exact .inl (List.mem_singleton_self _)
  | _ => cases hevent

/-- A cursor that is used by what is sent is one of a statement that is in flight then. -/
lemma Transition.uses_sent (h : client.Transition event step) (hsound : client.Sound)
    {cursor : UInt16} (hcursor : step.action.cursor? = some cursor) :
    ∃ flight request handle, step.client.inFlight = some flight ∧
      flight.task = .statement request handle ∧
      (cursor = request.cursor ∨ cursor = flight.result.cursor) := by
  -- a statement that is started
  have hstart : ∀ {spare : Client}, spare.inFlight = none →
      spare.phase = .ready ∨ spare.phase = .inFlight →
      spare.startNext.action.cursor? = some cursor →
        ∃ flight request handle, spare.startNext.client.inFlight = some flight ∧
          flight.task = .statement request handle ∧
          (cursor = request.cursor ∨ cursor = flight.result.cursor) := by
    intro spare hflight hphase hsent
    rcases startNext_cases hflight hphase with ⟨-, hstep⟩ | ⟨task, -, hstep⟩ <;>
      rw [hstep] at hsent ⊢
    · cases hsent
    · refine ⟨task.begin (spare.entry task), ?_⟩
      cases hbegin : (task.begin (spare.entry task)).task with
      | statement request handle =>
        rw [hbegin] at hsent
        exact ⟨request, handle, rfl, rfl, .inl (Option.some.inj hsent).symm⟩
      | _ =>
        rw [hbegin] at hsent
        cases hsent
  cases h with
  | quiet _ _ haction => rcases haction with rfl | rfl <;> cases hcursor
  | setup _ hstep => cases hstep <;> cases hcursor
  | failed =>
    unfold Client.fail at hcursor
    split_ifs at hcursor <;> cases hcursor
  | lost =>
    unfold Client.lost at hcursor
    split_ifs at hcursor <;> cases hcursor
  | served _ hphase hflight => exact hstart hflight (.inl hphase) hcursor
  | turned hflight hphase => exact hstart hflight hphase hcursor
  | fetched hflight htask _ hfetch =>
    obtain ⟨statement, handle, hstatement, rfl⟩ := fetch?_eq_some hfetch
    exact ⟨_, statement, handle, rfl, hstatement, .inr (Option.some.inj hcursor).symm⟩
  | @finished _ flight flight' hflight htask =>
    have hphase : client.phase = flight'.task.phase := by rw [htask, hsound.busy flight hflight]
    rcases finish_cases { client with awaiting := false, inFlight := none } flight' with
      ⟨hinFlight, statements, cleanup, hstep⟩ | ⟨-, hstep⟩ <;> rw [hstep] at hcursor ⊢
    · exact hstart rfl (.inr (hphase.trans hinFlight)) hcursor
    · cases hcursor
  | _ => cases hcursor

/-! ## Every run -/

lemma accounted_new (credentials : Credentials) (random : RandomSource) (cacheSize : Nat) :
    Accounted {} (new credentials random cacheSize) where
  keeps := ⟨StatementCache.wellFormed_empty cacheSize, by simp [new, StatementCache.texts],
    List.nodup_nil, List.not_mem_nil⟩
  plain := by simp [new]
  uses := by simp [new]

/-- A client and the account of its run go on agreeing. -/
lemma Accounted.after {events : List Event} (h : Accounted account client) (hsound : client.Sound)
    (hplain : ∀ task, .submit task ∈ events → task.IsPlain)
    (hhonest : account.Honest (client.moments events)) :
    Accounted ((client.moments events).foldl Account.enter account) (client.after events) := by
  induction events generalizing client account with
  | nil => exact h
  | cons event events ih =>
    obtain ⟨hadmits, hrest⟩ := hhonest
    have htransition := react_transition hsound.spare event
    refine ih (htransition.accounted hsound h ?_ hadmits) (htransition.sound hsound) ?_ hrest
    · rintro task rfl
      exact hplain task (List.mem_cons_self ..)
    · exact fun task hmem => hplain task (List.mem_cons_of_mem _ hmem)

/-- Client and account agree on both sides of every moment of a run. -/
lemma accounted_of_split {credentials : Credentials} {random : RandomSource} {cacheSize : Nat}
    {events : List Event} (hplain : ∀ task, .submit task ∈ events → task.IsPlain)
    (hhonest : Account.Honest {} ((new credentials random cacheSize).moments events))
    {past rest : List Moment} {moment : Moment}
    (h : (new credentials random cacheSize).moments events = past ++ moment :: rest) :
    moment.before.Sound ∧ Accounted (Account.behind past) moment.before ∧
      (∀ cursor ∈ moment.names?, (Account.behind past).Admits moment.before cursor) ∧
      Accounted ((Account.behind past).enter moment) moment.step.client := by
  have hnew := accounted_new credentials random cacheSize
  rw [h] at hhonest
  obtain ⟨hpast, hadmits, -⟩ := Account.honest_append.1 hhonest
  obtain ⟨earlier, later, rfl, rfl, hbefore, -⟩ := moments_eq_append h
  have hsound : moment.before.Sound := hbefore ▸ sound_after credentials random cacheSize earlier
  have haccount : Accounted (Account.behind ((new credentials random cacheSize).moments earlier))
      moment.before := by
    rw [hbefore]
    exact hnew.after (sound_new credentials random cacheSize)
      (fun task hmem => hplain task (List.mem_append_left _ hmem)) hpast
  have htransition := react_transition hsound.spare moment.event
  refine ⟨hsound, haccount, hadmits, htransition.accounted hsound haccount ?_ hadmits⟩
  intro task hevent
  exact hplain task (List.mem_append_right _ (hevent ▸ List.mem_cons_self ..))

/-- **The cursors of every run.** Statements are submitted without cursors, and whenever the server
names a cursor for a statement, it is the one that the statement was sent with, or a new one, of
which there is one for each statement, and which is then named ever after. Then:

* all cursors that the client knows of, those kept open and those that wait to be closed, are apart,
  and none of them is 0;
* whenever a statement is done, the cursor that it was sent with and those that the server has named
  for it are kept open, or wait to be closed, and not both;
* what is sent never uses a cursor that waits to be closed, and so none that is closed along with
  it. -/
theorem cursors_conserved (credentials : Credentials) (random : RandomSource) (cacheSize : Nat)
    {events : List Event}
    (hplain : ∀ request handle, .submit (.statement request handle) ∈ events →
      ∃ sql binds options, request = .ofSql sql binds options)
    (hhonest : Account.Honest {} ((new credentials random cacheSize).moments events)) :
    let moments := (new credentials random cacheSize).moments events
    let client := (new credentials random cacheSize).after events
    (client.cursors.Nodup ∧ 0 ∉ client.cursors) ∧
    (∀ past moment rest, moments = past ++ moment :: rest → moment.Settles → ∀ cursor, cursor ≠ 0 →
      (cursor = (Account.behind past).sent ∨ cursor ∈ (Account.behind past).named ∨
        moment.names? = some cursor) →
      Xor (cursor ∈ moment.step.client.statements.cursors)
        (cursor ∈ moment.step.client.cleanup.cursors)) ∧
    (∀ moment ∈ moments, ∀ cursor, moment.step.action.cursor? = some cursor →
      cursor ∉ moment.step.client.takeCleanup.1.cursors) := by
  intro moments client
  have hplain' : ∀ task, .submit task ∈ events → task.IsPlain := by
    intro task hmem
    cases task with
    | statement request handle =>
      obtain ⟨sql, binds, options, rfl⟩ := hplain request handle hmem
      exact ⟨rfl, rfl⟩
    | _ => trivial
  refine ⟨?_, fun past moment rest h hsettles cursor hzero hcursor => ?_,
    fun moment hmem cursor hcursor => ?_⟩
  · have hkeeps := ((accounted_new credentials random cacheSize).after
      (sound_new credentials random cacheSize) hplain' hhonest).keeps
    exact ⟨hkeeps.distinct, hkeeps.nonzero⟩
  · obtain ⟨hsound, haccount, hadmits, hafter⟩ := accounted_of_split hplain' hhonest h
    obtain ⟨hanswers, flight, request, handle, outcome, hflight, htask, hresolved⟩ := hsettles
    obtain ⟨message, hevent, hends⟩ := Moment.message_of_answers hanswers
    have htransition := react_transition hsound.spare moment.event
    have hmem := htransition.settled hsound haccount hadmits hevent hends hflight htask
      (List.ne_nil_of_mem hresolved) hzero hcursor
    have hapart := List.disjoint_of_nodup_append hafter.keeps.distinct
    rcases List.mem_append.1 hmem with hkept | hclosing
    · exact .inl ⟨hkept, fun hclosing => hapart hkept hclosing⟩
    · exact .inr ⟨hclosing, fun hkept => hapart hkept hclosing⟩
  · obtain ⟨past, rest, h⟩ := List.append_of_mem hmem
    obtain ⟨hsound, -, -, hafter⟩ := accounted_of_split hplain' hhonest h
    obtain ⟨flight, request, handle, hflight, htask, hused⟩ :=
      (react_transition hsound.spare moment.event).uses_sent hsound hcursor
    obtain ⟨hsent, hknown⟩ :=
      not_closing hafter.keeps (hafter.uses flight request handle hflight htask).1
    rcases hused with rfl | rfl
    · exact hsent
    · exact hknown

/-- A statement of which rows are fetched, another one that takes its place in the cache, and a
third one that has the same text as that one and fails. -/
def sampleStatements : List Event :=
  let execute (sql : String) (handle : Handle) : Event :=
    .submit (.statement (.ofSql sql [] {}) handle)
  sampleLogon ++
    [execute "select a from t" 1, .message (.error { cursor := 7 }),
      .message (.error { number := 1403, cursor := 7 }),
      execute "select b from t" 2, .message (.error { number := 1403, cursor := 9 }),
      execute "select b from t" 3, .takeCleanup, .message (.error { number := 942, cursor := 9 })]

/-- The first cursor has been closed to make room for the second one, which waits to be closed
because its statement has failed. -/
theorem cursors_conserved_sample :
    Account.Honest {} (sample.moments sampleStatements) ∧
      (sample.after sampleStatements).cleanup.cursors = [9] ∧
      (sample.after sampleStatements).cursors.Nodup := by
  have hplain : ∀ request handle, .submit (.statement request handle) ∈ sampleStatements →
      ∃ sql binds options, request = .ofSql sql binds options := by
    intro request handle hmem
    simp only [sampleStatements, sampleLogon, List.cons_append, List.nil_append, List.mem_cons,
      Event.submit.injEq, Task.statement.injEq, reduceCtorEq, false_or, or_false, List.not_mem_nil]
      at hmem
    rcases hmem with ⟨rfl, -⟩ | ⟨rfl, -⟩ | ⟨rfl, -⟩ <;> exact ⟨_, _, _, rfl⟩
  have hhonest : Account.Honest {} (sample.moments sampleStatements) := by decide +kernel
  exact ⟨hhonest, by decide +kernel, (cursors_conserved _ _ _ hplain hhonest).1.1⟩

end Client

end TnsClient
