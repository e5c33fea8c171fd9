import TnsClient.Proofs.Link.Fragments
import TnsClient.Proofs.Link.Run

set_option autoImplicit false

/-!
# Reading is a run

Octets that come in are cut into messages, and the messages are handed to the client one by one;
what cannot be read is a failure, and once the link begins to serve the next task may be started.
So, but for what is yet to be read, whatever octets come to is what some messages, turns and
failures come to.

## Main definitions

* `TnsClient.Link.core` — a link but for what it has yet to read.
* `TnsClient.Occurrence.isRead` — whether an occurrence comes of reading.
* `TnsClient.Link.KeptByReading` — a property that reading keeps.
* `TnsClient.Link.Reads` — a link comes to another by reading.

## Main results

* `TnsClient.Link.KeptByReading.receive` — it is kept by whatever octets come.
* `TnsClient.Link.receive_run` — reading is a run.
-/

namespace TnsClient

/-- Whether an occurrence comes of reading. -/
def Occurrence.isRead : Occurrence → Bool
  | message _ | turn | failed _ => true
  | _ => false

namespace Link

variable {link : Link}

/-- A link but for what it has yet to read. -/
def core (link : Link) : Link := { link with decoder := {}, buffer := [], pending := [] }

section Core

variable (link : Link) (decoder : Decoder) (buffer : Bytes) (pending : List ServerMessage)

lemma transmit_core (request : Request) :
    (({ link with decoder, buffer, pending } : Link).transmit request).core =
      (link.transmit request).core := by
  cases request <;> rfl

lemma close_core (error : Option ClientError) :
    (({ link with decoder, buffer, pending } : Link).close error).core =
      (link.close error).core := by
  unfold close
  dsimp only
  split <;> rfl

lemma fail_core (error : ClientError) :
    (({ link with decoder, buffer, pending } : Link).fail error).core = (link.fail error).core :=
  close_core (link.adopt (link.client.fail error)) decoder buffer pending (some error)

lemma perform_core (action : Action) :
    (({ link with decoder, buffer, pending } : Link).perform action).core =
      (link.perform action).core := by
  cases action with
  | send request => exact transmit_core link decoder buffer pending request
  | close error => exact close_core link decoder buffer pending error
  | resend request =>
    unfold perform
    dsimp only
    split
    · rfl
    · exact fail_core link decoder buffer pending _
  | _ => rfl

lemma act_core (step : Client.Step) :
    (({ link with decoder, buffer, pending } : Link).act step).core = (link.act step).core :=
  perform_core (link.adopt step) decoder buffer pending step.action

/-- What befalls a link does not ask what it has yet to read. -/
lemma befall_core (occurrence : Occurrence) :
    (({ link with decoder, buffer, pending } : Link).befall occurrence).core =
      (link.befall occurrence).core := by
  -- nothing comes of what is left out once the connection is over
  have hlater : ∀ {one other : Link}, one.core = other.core →
      (if link.isFinished then { link with decoder, buffer, pending } else one).core =
        (if link.isFinished then link else other).core := by
    intro one other h
    split_ifs
    · rfl
    · exact h
  cases occurrence with
  | command command =>
    show (({ link with decoder, buffer, pending } : Link).command command).core =
      (link.command command).core
    unfold Link.command
    dsimp only
    rw [show ({ link with decoder, buffer, pending } : Link).isFinished = link.isFinished from rfl]
    cases command with
    | submit ticket task =>
      cases link.isFinished
      · dsimp only
        rw [submit_eq, submit_eq]
        exact act_core { link with tickets := link.ticketed ticket task } decoder buffer pending _
      · rfl
    | cancel ticket =>
      cases link.isFinished
      · dsimp only
        unfold Link.cancel
        dsimp only
        split
        · exact act_core { link with
            tickets := link.tickets.filter fun entry => entry.1 != ticket } decoder buffer
            pending _
        · rfl
      · rfl
    | releaseLob locator => cases link.isFinished <;> rfl
  | message message =>
    exact hlater (act_core { link with
      heard := link.heard ++ [(message, (link.client.handle message).action)] } decoder buffer
      pending _)
  | turn => exact hlater (act_core link decoder buffer pending _)
  | failed error => exact hlater (fail_core link decoder buffer pending error)
  | ended =>
    show (({ link with decoder, buffer, pending } : Link).ended).core = link.ended.core
    unfold ended
    dsimp only
    split
    · exact fail_core link decoder buffer pending _
    · rfl
    · rfl
  | timedOut milliseconds =>
    show (({ link with decoder, buffer, pending } : Link).timeOut milliseconds).core =
      (link.timeOut milliseconds).core
    unfold timeOut
    dsimp only
    split <;> rfl
  | abandoned handle => rfl

end Core

lemma eq_of_core_eq {one other : Link} (h : one.core = other.core) :
    one = { other with decoder := one.decoder, buffer := one.buffer, pending := one.pending } := by
  rcases one
  rcases other
  simp only [core, mk.injEq] at h ⊢
  tauto

/-- So nor does a run. -/
lemma run_core {one other : Link} (h : one.core = other.core) (occurrences : List Occurrence) :
    (one.run occurrences).core = (other.run occurrences).core := by
  induction occurrences generalizing one other with
  | nil => exact h
  | cons occurrence rest ih =>
    refine ih ?_
    rw [eq_of_core_eq h]
    exact befall_core other _ _ _ occurrence

/-! ## What reading keeps -/

/-- **A property that reading keeps.** Whatever befalls a link by reading keeps it, and so does what
the link notes of its reading: what the decoder remembers, what is left of the octets, and what is
decoded already. -/
structure KeptByReading (P : Link → Prop) : Prop where
  befall : ∀ (link : Link) (occurrence : Occurrence), occurrence.isRead = true → P link →
    P (link.befall occurrence)
  decode : ∀ (link : Link) (buffer : Bytes), P link →
    P { link with decoder := (link.decoder.decode buffer).decoder }
  note : ∀ (link : Link) (buffer : Bytes) (pending : List ServerMessage), P link →
    P { link with buffer, pending }

namespace KeptByReading

variable {P : Link → Prop} (h : KeptByReading P)

include h

/-- While the connection is not over, every occurrence counts. -/
lemma hear (hopen : link.isFinished = false) (message : ServerMessage) (hlink : P link) :
    P (link.hear message) := by
  have hkept := h.befall link (.message message) rfl hlink
  rwa [Link.befall, if_neg (by simp [hopen])] at hkept

lemma fail (hopen : link.isFinished = false) (error : ClientError) (hlink : P link) :
    P (link.fail error) := by
  have hkept := h.befall link (.failed error) rfl hlink
  rwa [Link.befall, if_neg (by simp [hopen])] at hkept

lemma turn (hopen : link.isFinished = false) (hlink : P link) :
    P (link.act link.client.startNext) := by
  have hkept := h.befall link .turn rfl hlink
  rwa [Link.befall, if_neg (by simp [hopen])] at hkept

lemma deliver (messages : List ServerMessage) (hlink : P link) : P (link.deliver messages) := by
  induction messages generalizing link with
  | nil => exact hlink
  | cons message rest ih =>
    rw [Link.deliver]
    cases hopen : link.isFinished
    · exact ih (h.hear hopen message hlink)
    · exact hlink

/-- Whole packets are taken off a buffer, as long as there are any. -/
lemma drain (hopen : link.isFinished = false) (buffer : Bytes) (hlink : P link) :
    P (link.drain buffer) := by
  induction link, buffer using drain.induct with
  | case1 link buffer attempt error hresult =>
    simp only [attempt] at hresult
    rw [drain_eq]
    simp only [hresult]
    refine h.fail ?_ _ (h.decode link buffer hlink)
    exact hopen
  | case2 link buffer attempt hresult =>
    simp only [attempt] at hresult
    rw [drain_eq]
    simp only [hresult]
    exact h.note _ buffer link.pending (h.decode link buffer hlink)
  | case3 link buffer attempt next messages hresult _ served hfinished =>
    simp only [attempt] at hresult
    simp only [served, next, attempt] at hfinished
    rw [drain_eq]
    simp only [hresult, hfinished, if_true]
    exact h.deliver messages (h.decode link buffer hlink)
  | case4 link buffer attempt next messages hresult _ served hserves ih =>
    simp only [attempt] at hresult
    have ih := ih (by simpa using hserves)
    simp only [served, next, attempt] at hserves ih
    rw [drain_eq]
    simp only [hresult, hserves]
    exact ih (h.deliver messages (h.decode link buffer hlink))

/-- So it is while the user logs on, message by message. -/
lemma logOn (buffer : Bytes) (pending : List ServerMessage) (hlink : P link) :
    P (link.logOn buffer pending) := by
  induction link, buffer, pending using logOn.induct with
  | case1 link buffer pending hstage =>
    rw [logOn.eq_def]
    simp only [hstage]
    exact hlink
  | case2 link buffer pending hstage =>
    have hsession : link.logOn buffer pending = { link with buffer, pending } := by
      rw [logOn.eq_def]
      simp only [hstage]
    rw [hsession]
    exact h.note link buffer pending hlink
  | case3 link buffer hstage message pending ih =>
    rw [Link.logOn]
    simp only [hstage]
    exact ih (h.hear (by simp [isFinished, hstage]) message hlink)
  | case4 link buffer hstage attempt error hresult =>
    simp only [attempt] at hresult
    rw [logOn_nil hstage]
    simp only [hresult]
    refine h.fail ?_ _ (h.decode link buffer hlink)
    simp [isFinished, hstage]
  | case5 link buffer hstage attempt hresult =>
    simp only [attempt] at hresult
    rw [logOn_nil hstage]
    simp only [hresult]
    exact h.note _ buffer link.pending (h.decode link buffer hlink)
  | case6 link buffer hstage attempt next messages hresult _ ih =>
    simp only [attempt] at hresult
    rw [logOn_nil hstage]
    simp only [hresult]
    exact ih (h.decode link buffer hlink)

/-- Beginning to serve reads what has come meanwhile, and then starts the next task. -/
lemma begin (hlink : P link) : P link.begin := by
  have hdelivered := h.deliver link.pending (h.note link [] [] hlink)
  unfold Link.begin
  dsimp only
  split_ifs with hfinished hover
  · exact hdelivered
  · exact h.drain (by simpa using hfinished) link.buffer hdelivered
  · exact h.turn (by simpa using hover)
      (h.drain (by simpa using hfinished) link.buffer hdelivered)

/-- **What reading keeps** is kept by whatever octets come. -/
theorem receive (octets : Bytes) (hlink : P link) : P (link.receive octets) := by
  unfold Link.receive
  dsimp only
  split
  · have hlogOn := h.logOn (link.buffer ++ octets) link.pending (h.note link [] [] hlink)
    split_ifs
    · exact h.begin hlogOn
    · exact hlogOn
  · next hstage =>
    exact h.drain (by simp [isFinished, hstage]) _ (h.note link [] link.pending hlink)
  · exact hlink

end KeptByReading

/-! ## Reading is a run -/

/-- But for what it has yet to read, a link has come to another by reading. -/
def Reads (link other : Link) : Prop :=
  ∃ occurrences : List Occurrence, (∀ occurrence ∈ occurrences, occurrence.isRead = true) ∧
    (link.run occurrences).core = other.core

lemma Reads.of_core {other : Link} (h : link.core = other.core) : link.Reads other :=
  ⟨[], by simp, h⟩

lemma Reads.trans {one two three : Link} (h : one.Reads two) (h' : two.Reads three) :
    one.Reads three := by
  obtain ⟨first, hfirst, hone⟩ := h
  obtain ⟨second, hsecond, htwo⟩ := h'
  refine ⟨first ++ second, fun occurrence hmem => ?_, ?_⟩
  · exact (List.mem_append.1 hmem).elim (hfirst occurrence) (hsecond occurrence)
  · rw [run_append, run_core hone, htwo]

/-- Reading keeps how a link has been come to by reading. -/
lemma keptByReading_reads (link : Link) : KeptByReading link.Reads where
  befall other occurrence hread h := h.trans ⟨[occurrence], by simpa using hread, rfl⟩
  decode _ _ h := h.trans (.of_core rfl)
  note _ _ _ h := h.trans (.of_core rfl)

/-- **Reading is a run.** But for what it has yet to read, a link that is given octets comes to
where some messages, turns and failures would have brought it. -/
theorem receive_run (link : Link) (octets : Bytes) : link.Reads (link.receive octets) :=
  link.keptByReading_reads.receive octets (.of_core rfl)

end Link

end TnsClient
