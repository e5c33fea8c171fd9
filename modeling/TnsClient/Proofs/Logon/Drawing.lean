import Mathlib.Algebra.GroupWithZero.Nat
import TnsClient.Proofs.Logon.Demands

set_option autoImplicit false

/-!
# What is drawn

A computation that draws octets comes with each source to an end, and leaves the source behind what
it has drawn. What matters of such a computation is what it demands before it draws at all, and how
many octets it draws then, whatever they are.

## Main definitions

* `TnsClient.RandomSource.after` — the source from which octets have been drawn.
* `TnsClient.Drawing.Draws` — whatever octets come, so many are drawn, and then there is a value.
* `TnsClient.Drawing.Settles` — a computation fails at once, or draws all that it needs and
  succeeds.

## Main results

* `TnsClient.Drawing.run_bind_of_ok` — one computation behind another.
* `TnsClient.Drawing.Settles.run_of_fault`, `TnsClient.Drawing.Settles.run_eq_error_iff` — where a
  demand is not met, and only there, it fails, and nothing is drawn.
-/

namespace TnsClient

/-! ## Sources -/

namespace RandomSource

/-- The octets that come after `skipped` others. -/
def octets (source : RandomSource) (skipped count : Nat) : Bytes :=
  (List.range count).map fun i => source.stream (source.drawn + skipped + i)

/-- The source from which `count` octets have been drawn. -/
def after (source : RandomSource) (count : Nat) : RandomSource :=
  { source with drawn := source.drawn + count }

lemma length_octets (source : RandomSource) (skipped count : Nat) :
    (source.octets skipped count).length = count := by
  simp [octets]

lemma draw_eq (source : RandomSource) (count : Nat) :
    source.draw count = (source.octets 0 count, source.after count) := rfl

lemma after_after (source : RandomSource) (drawn count : Nat) :
    (source.after drawn).after count = source.after (drawn + count) := by
  simp only [after, Nat.add_assoc]

end RandomSource

/-! ## Computations -/

namespace Drawing

variable {ε α β : Type}

/-- Whatever octets come, so many are drawn each time, one time after the other, and then there is a
value. -/
inductive Draws : List Nat → Drawing ε α → Prop
  | done {value : α} : Draws [] (done value)
  | draw {count : Nat} {counts : List Nat} {next : Bytes → Drawing ε α}
    (h : ∀ octets, Draws counts (next octets)) : Draws (count :: counts) (draw count next)

/-! ## Runs -/

/-- Where so many octets are drawn, whatever they are, the source is behind them. -/
lemma Draws.run {counts : List Nat} {computation : Drawing ε α} (h : computation.Draws counts)
    (source : RandomSource) :
    ∃ value, computation.run source = (.ok value, source.after counts.sum) := by
  induction h generalizing source with
  | done => exact ⟨_, rfl⟩
  | @draw count counts next _ ih =>
    obtain ⟨value, hvalue⟩ := ih (source.draw count).1 (source.draw count).2
    refine ⟨value, hvalue.trans ?_⟩
    rw [source.draw_eq, source.after_after, List.sum_cons]

/-! ## Octets that are drawn -/

lemma draws_octets (count : Nat) : (octets count : Drawing ε Bytes).Draws [count] :=
  .draw fun _ => .done

lemma draws_pure (value : α) : (pure value : Drawing ε α).Draws [] := .done

lemma draws_ofExcept {result : Except ε α} {value : α} (h : result = .ok value) :
    (ofExcept result).Draws [] := h ▸ .done

/-- What is drawn by one computation behind another. -/
lemma Draws.bind {counts more : List Nat} {computation : Drawing ε α} {next : α → Drawing ε β}
    (h : computation.Draws counts) (hnext : ∀ value, (next value).Draws more) :
    (computation >>= next).Draws (counts ++ more) := by
  induction h with
  | done => exact hnext _
  | draw _ ih => exact .draw ih

/-! ## All or nothing -/

/-- A computation fails at once with the error of the first demand that is not met; where all are
met, it draws so many octets each time and has a value. -/
structure Settles (demands : List Demand) (counts : List Nat) (computation : Drawing AuthError α) :
    Prop where
  failed : ∀ error, FirstFault demands error → computation = .failed error
  drawn : AllMet demands → computation.Draws counts

lemma Settles.of_draws {counts : List Nat} {computation : Drawing AuthError α}
    (h : computation.Draws counts) : Settles [] counts computation where
  failed _ := nofun
  drawn _ := h

section

variable {demands more : List Demand} {counts : List Nat} {computation : Drawing AuthError α}

/-- Where a demand is not met, nothing is drawn. -/
lemma Settles.run_of_fault (h : Settles demands counts computation) (source : RandomSource)
    {error : AuthError} (hfault : FirstFault demands error) :
    computation.run source = (.error error, source) := by
  rw [h.failed error hfault]
  rfl

/-- It fails nowhere else, whatever the source. -/
lemma Settles.run_eq_error_iff (h : Settles demands counts computation) (source : RandomSource)
    (error : AuthError) :
    (computation.run source).1 = .error error ↔ FirstFault demands error := by
  refine ⟨fun herror => ?_, fun hfault => by rw [h.run_of_fault source hfault]⟩
  rcases allMet_or_firstFault demands with hall | ⟨other, hother⟩
  · obtain ⟨value, hvalue⟩ := (h.drawn hall).run source
    rw [hvalue] at herror
    cases herror
  · rw [h.run_of_fault source hother] at herror
    cases herror
    exact hother

/-- A computation that checks demands and draws nothing may come first. -/
lemma Settles.bind {result : Except AuthError α} {post : α → Prop}
    {next : α → Drawing AuthError β} (h : Checks demands result post)
    (hnext : ∀ value, post value → Settles more counts (next value)) :
    Settles (demands ++ more) counts (ofExcept result >>= next) := by
  rcases result with error | value
  · have hfault := h.failed error rfl
    refine ⟨fun other hother => ?_, fun hall => ?_⟩
    · rcases firstFault_append.1 hother with hother | ⟨hall, -⟩
      · rw [hfault.unique hother]
        rfl
      · exact absurd hall hfault.not_allMet
    · exact absurd (allMet_append.1 hall).1 hfault.not_allMet
  · obtain ⟨hall, hpost⟩ := h.passed value rfl
    have hmore := hnext value hpost
    refine ⟨fun other hother => ?_, fun hall' => hmore.drawn (allMet_append.1 hall').2⟩
    rcases firstFault_append.1 hother with hother | ⟨-, hother⟩
    · exact absurd hall hother.not_allMet
    · exact hmore.failed other hother

end

end Drawing

end TnsClient
