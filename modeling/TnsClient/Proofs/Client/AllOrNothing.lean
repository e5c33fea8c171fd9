import TnsClient.Proofs.Client.LogonOrder
import TnsClient.Proofs.Logon.Derivation

set_option autoImplicit false

/-!
# The password is proved or nothing is sent

When the answer to the first step of the logon is over, the client computes the proof of the
password from what the server has sent. This fails at once or succeeds, and it fails only for what
the server has sent. A client whose computation has failed gives up: no moment of its run, before or
after, is one at which a proof is sent.

## Main definitions

* `TnsClient.Moment.AsksProof` — the password is to be proved at a moment.

## Main results

* `TnsClient.Client.Transition.progress_le` — no step leads back behind a milestone.
* `TnsClient.Client.proof_all_or_nothing` — the computation, and what becomes of a client whose
  computation fails.
-/

namespace TnsClient

/-! ## Phases and moments -/

/-- No phase has more milestones behind it than those of a connection that is over. -/
lemma Phase.progress_le_of_over {phase : Phase} (other : Phase) (h : phase.isOver = true) :
    other.progress ≤ phase.progress := by
  have hall : other.progress ≤ 6 := by
    unfold progress
    split <;> decide
  cases phase <;> simp_all [isOver, progress]

/-- The password is to be proved: the answer to the first step of the logon is over, has brought
parameters and has not failed. -/
structure Moment.AsksProof (moment : Moment) : Prop where
  phase : moment.before.phase = .authenticating .one
  seen : moment.before.parametersSeen = true
  ends : ∃ message, moment.event = .message message ∧
    Client.endsAnswer moment.before.capabilities.endOfResponse message = true ∧
    ∀ block, message = .error block → block.isFailure = false

namespace Client

variable {client : Client}

/-! ## No way back -/

/-- **No step leads back** behind a milestone. -/
lemma Transition.progress_le {event : Event} {step : Step} (h : client.Transition event step)
    (hsound : client.Sound) : client.phase.progress ≤ step.client.phase.progress := by
  rcases h.passes hsound with
    ⟨-, hover | ⟨-, hprogress⟩, -⟩ | ⟨other, request, hstep, -, rfl⟩ | hdone
  · exact Phase.progress_le_of_over _ hover
  · exact Nat.le_of_eq hprogress.symm
  · by_cases hconnect : request = .connect
    · cases hstep with
      | connect => exact Nat.le_refl _
      | _ => cases hconnect
    · rw [(hstep.advances hconnect).2.2.1]
      exact Nat.le_succ _
  · rw [hdone.phase, hdone.ready]
    decide

/-- Nor does a run. -/
lemma Sound.progress_le_after (h : client.Sound) (events : List Event) :
    client.phase.progress ≤ (client.after events).phase.progress := by
  induction events generalizing client with
  | nil => exact Nat.le_refl _
  | cons event events ih =>
    have htransition := react_transition h.spare event
    exact (htransition.progress_le h).trans (ih (htransition.sound h))

/-- A proof is sent in the first step of the logon, and leads to the second. -/
lemma Transition.progress_of_logonProof {event : Event} {step : Step}
    (h : client.Transition event step) (hsound : client.Sound) {sender : Credentials}
    {verifier : Verifier} (hsent : step.action = .send (.logonProof sender verifier)) :
    client.phase.progress = 4 ∧ step.client.phase.progress = 5 := by
  have hphase : client.phase.progress = 4 := by
    rw [(h.logonProof hsound hsent).2.1]
    rfl
  rcases h.passes hsound with ⟨hnone, -, -⟩ | ⟨other, request, hstep, -, rfl⟩ | hdone
  · rw [hsent] at hnone
    cases hnone
  · cases hsent
    rw [(hstep.advances nofun).2.2.1, hphase]
    exact ⟨rfl, rfl⟩
  · rw [hdone.action] at hsent
    cases hsent

section

variable {credentials : Credentials} {random : RandomSource} {cacheSize : Nat} {events : List Event}

/-- A moment of a run finds at least as many milestones as an earlier one has left. -/
lemma progress_le_of_moments_eq {past between rest : List Moment} {one other : Moment}
    (h : (new credentials random cacheSize).moments events =
      past ++ one :: (between ++ other :: rest)) :
    one.step.client.phase.progress ≤ other.before.phase.progress := by
  obtain ⟨hsound, htransition⟩ := @transition_of_mem _ _ _ _ one (by rw [h]; simp)
  obtain ⟨-, later, -, -, -, hlater⟩ := moments_eq_append h
  obtain ⟨middle, -, -, -, hother, -⟩ := moments_eq_append hlater.symm
  rw [hother]
  exact (htransition.sound hsound).progress_le_after middle

/-- **A client that gives up in the first step** of the logon has sent no proof, and will not. -/
lemma no_logonProof {past rest : List Moment} {moment : Moment}
    (h : (new credentials random cacheSize).moments events = past ++ moment :: rest)
    (hphase : moment.before.phase = .authenticating .one)
    (hover : moment.step.client.phase.isOver = true)
    (hnow : ∀ sender verifier, moment.step.action ≠ .send (.logonProof sender verifier)) :
    ∀ other ∈ (new credentials random cacheSize).moments events, ∀ sender verifier,
      other.step.action ≠ .send (.logonProof sender verifier) := by
  intro other hmem sender verifier hsent
  obtain ⟨hsound, htransition⟩ := transition_of_mem hmem
  obtain ⟨hbefore, hafter⟩ := htransition.progress_of_logonProof hsound hsent
  have hfirst : moment.before.phase.progress = 4 := by rw [hphase]; rfl
  rw [h, List.mem_append, List.mem_cons] at hmem
  rcases hmem with hpast | rfl | hrest
  · -- the second step would have begun before
    obtain ⟨first, second, rfl⟩ := List.append_of_mem hpast
    rw [List.append_assoc, List.cons_append] at h
    have hle := progress_le_of_moments_eq h
    omega
  · exact hnow sender verifier hsent
  · -- the connection would not be over
    obtain ⟨first, second, rfl⟩ := List.append_of_mem hrest
    have hle := progress_le_of_moments_eq h
    have hend := Phase.progress_le_of_over .ready hover
    have hall : Phase.ready.progress = 6 := rfl
    omega

end

/-! ## A computation that fails -/

/-- At a moment at which the password is to be proved, this is tried. -/
lemma step_of_asksProof {moment : Moment} (hsound : moment.before.Sound)
    (h : moment.AsksProof) :
    moment.step = ({ moment.before with awaiting := false } : Client).proveSelf := by
  obtain ⟨client, event⟩ := moment
  obtain ⟨hphase, hseen, message, hmessage, hends, hfailure⟩ := h
  simp only at hphase hseen hmessage hends
  have hlogon : client.phase.isLogon = true := by rw [hphase]; rfl
  have hawaiting : client.awaiting = true := hsound.awaiting.2 (.inl hlogon)
  have hanswered : client.answered = ({ client with awaiting := false } : Client).proveSelf := by
    simp [answered, hawaiting, hphase, logonAnswered, hseen]
  subst hmessage
  rw [← hanswered]
  cases message with
  | status status =>
    have hmarked : client.capabilities.endOfResponse = false := by simpa [endsAnswer] using hends
    show client.answeredUnlessMarked = _
    simp [answeredUnlessMarked, hmarked]
  | error block =>
    have hmarked : client.capabilities.endOfResponse = false := by simpa [endsAnswer] using hends
    show client.errorBlock block = _
    simp [errorBlock, hlogon, hfailure block rfl, answeredUnlessMarked, hmarked]
  | endOfResponse => rfl
  | _ => simp [endsAnswer] at hends

/-- Who logs on, and with what, is settled from the beginning. -/
lemma Sound.fixed_after (h : client.Sound) (events : List Event) :
    (client.after events).primitives = client.primitives ∧
      (client.after events).credentials = client.credentials := by
  induction events generalizing client with
  | nil => exact ⟨rfl, rfl⟩
  | cons event events ih =>
    have htransition := react_transition h.spare event
    obtain ⟨hprimitives, hcredentials⟩ := htransition.fixed h
    obtain ⟨hprimitives', hcredentials'⟩ := ih (htransition.sound h)
    exact ⟨hprimitives'.trans hprimitives, hcredentials'.trans hcredentials⟩

/-- **The proof of the password is computed or nothing comes of it.** For all credentials and all
that a server may have sent, with every source of randomness, the computation comes to what the
client makes of it, and:

* if a demand is not met, it fails before anything is drawn, with the error of the first such
  demand, and this is the only way in which it fails;
* if all demands are met, it draws 32 octets, then 16 for the newer hash only, then 16, whatever
  they are, and succeeds.

A new client, whatever befalls it, that is to prove the password at a moment, and of what the server
has sent so far a demand is not met, fails with that error, and has not touched its source of
randomness. It has sent no proof before and never sends one.

**Proof sketch.** The computation is `TnsClient.Verifier.derive_settles`. No step leads back behind
a milestone: had a proof been sent before, the client would be past the first step of the logon, and
afterwards the connection is over. -/
theorem proof_all_or_nothing (credentials : Credentials) (random : RandomSource) (cacheSize : Nat)
    (events : List Event) :
    (∀ data, let derive := Verifier.derive .standard credentials data
      let demands := Challenge.demands data
      (∀ source, derive.run source = Verifier.generate .standard credentials data source) ∧
      (∀ error, FirstFault demands error → derive = .failed error) ∧
      (∀ source error, (Verifier.generate .standard credentials data source).1 = .error error ↔
        FirstFault demands error) ∧
      (∀ source error, FirstFault demands error →
        Verifier.generate .standard credentials data source = (.error error, source)) ∧
      (AllMet demands → derive.Draws (Verifier.counts data) ∧ ∀ source, ∃ verifier,
        Verifier.generate .standard credentials data source =
          (.ok verifier, source.after (Verifier.counts data).sum))) ∧
    ∀ past moment rest error,
      (new credentials random cacheSize).moments events = past ++ moment :: rest →
      moment.AsksProof → FirstFault (Challenge.demands moment.before.session) error →
        moment.step.client.phase = .errored ∧
        moment.step.action = .close (some (.authentication error)) ∧
        moment.step.client.random = moment.before.random ∧
        ∀ other ∈ (new credentials random cacheSize).moments events, ∀ sender verifier,
          other.step.action ≠ .send (.logonProof sender verifier) := by
  refine ⟨fun data => ?_, ?_⟩
  · have hsettles := Verifier.derive_settles credentials data
    exact ⟨fun source => rfl, hsettles.failed, hsettles.run_eq_error_iff,
      fun source _ => hsettles.run_of_fault source,
      fun hall => ⟨hsettles.drawn hall, (hsettles.drawn hall).run⟩⟩
  · intro past moment rest error hsplit hasks hfault
    obtain ⟨earlier, -, -, -, hbefore, -⟩ := moments_eq_append hsplit
    have hsound : moment.before.Sound := hbefore ▸ sound_after credentials random cacheSize earlier
    obtain ⟨hprimitives, hcredentials⟩ : moment.before.primitives = .standard ∧
        moment.before.credentials = credentials := by
      rw [hbefore]
      exact (sound_new credentials random cacheSize).fixed_after earlier
    have hcomputed : Verifier.generate moment.before.primitives moment.before.credentials
        moment.before.session moment.before.random = (.error error, moment.before.random) := by
      rw [hprimitives, hcredentials]
      exact (Verifier.derive_settles credentials _).run_of_fault _ hfault
    have hstep : moment.step =
        ({ moment.before with awaiting := false } : Client).fail (.authentication error) := by
      rw [step_of_asksProof hsound hasks, proveSelf]
      simp only [hcomputed]
    have hover : moment.before.phase.isOver = false := by rw [hasks.phase]; rfl
    rw [fail_awaiting false _ hover, fail_eq _ hover] at hstep
    have haction : moment.step.action = .close (some (.authentication error)) := by rw [hstep]
    have hphase : moment.step.client.phase = .errored := by rw [hstep]
    refine ⟨hphase, haction, by rw [hstep], ?_⟩
    refine no_logonProof hsplit hasks.phase (by rw [hphase]; rfl) ?_
    intro sender verifier hsent
    rw [haction] at hsent
    cases hsent

/-- A challenge in order, but for the server's half of the session key: it is one whole block, which
is not as long as a key. -/
def shortHalf : SessionData :=
  sampleChallenge.insert "AUTH_SESSKEY" "00112233445566778899AABBCCDDEEFF" 0

/-- The last demand is the only one that such a challenge does not meet. -/
lemma firstFault_shortHalf :
    FirstFault (Challenge.demands shortHalf) (.invalidParameter "AUTH_SESSKEY") := by
  have hhex : ∀ name ∈ ["AUTH_VFR_DATA", "AUTH_SESSKEY", "AUTH_PBKDF2_CSK_SALT"],
      Hex.IsText (Challenge.text shortHalf name) := by
    decide +kernel
  have hcount : Text.CountText (Challenge.text shortHalf "AUTH_PBKDF2_SDER_COUNT") :=
    Text.readUInt32_trim_iff.1 ⟨1, by decide +kernel, by decide⟩
  have hparameters : AllMet (Challenge.parameterDemands shortHalf) := by
    unfold Challenge.parameterDemands
    rw [if_neg (by decide)]
    simp only [List.append_nil, List.cons_append, List.nil_append, allMet_cons]
    exact ⟨rfl, .inr (by decide), hhex _ (by decide), rfl, hhex _ (by decide), rfl,
      hhex _ (by decide), rfl, hcount, nofun⟩
  refine firstFault_append.2 (.inr ⟨hparameters, .later ?_ (.here ?_)⟩)
  · show _ = _
    decide +kernel
  · show ¬_ ≤ _
    decide +kernel

/-- A client to which a challenge is sent whose half of the session key is too short gives up when
the answer is over. -/
theorem proof_all_or_nothing_short_half :
    let events := sampleLogon.take 4 ++ [.message (.authParameters shortHalf)]
    let moment : Moment := ⟨sample.after events, .message (.status ⟨0, 0⟩)⟩
    moment.AsksProof ∧
      FirstFault (Challenge.demands moment.before.session) (.invalidParameter "AUTH_SESSKEY") ∧
      moment.step.client.phase = .errored ∧
      moment.step.action = .close (some (.authentication (.invalidParameter "AUTH_SESSKEY"))) := by
  intro events moment
  have hasks : moment.AsksProof :=
    ⟨by decide +kernel, by decide +kernel, _, rfl, by decide +kernel, nofun⟩
  have hsession : moment.before.session = shortHalf := by decide +kernel
  have hfault : FirstFault (Challenge.demands moment.before.session)
      (.invalidParameter "AUTH_SESSKEY") := by
    rw [hsession]
    exact firstFault_shortHalf
  obtain ⟨hphase, haction, -, -⟩ := (proof_all_or_nothing _ _ _ _).2 (sample.moments events) moment
    [] _ (moments_concat sample events moment.event) hasks hfault
  exact ⟨hasks, hfault, hphase, haction⟩

end Client

end TnsClient
