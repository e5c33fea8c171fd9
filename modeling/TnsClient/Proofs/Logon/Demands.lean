import Mathlib.Data.List.Basic
import Mathlib.Tactic.Lemma
import TnsClient.Logon.Verifier
import TnsClient.Proofs.Bytes
import TnsClient.Proofs.Text.IntegerLiteral

set_option autoImplicit false

/-!
# What is demanded of a challenge

The client demands one thing after the other of what the server has sent: that a parameter was sent
at all, that it can be read, that there is enough of it. The first demand that is not met decides
which error there is. So a computation that can fail is described by a list of demands, and the list
of a computation that is made of two is made of their lists.

## Main definitions

* `TnsClient.Demand` — a demand, and the error where it is not met.
* `TnsClient.FirstFault` — the error of the first demand that is not met.
* `TnsClient.Checks` — a computation checks a list of demands.
* `TnsClient.Challenge.demands` — what is demanded of a challenge.

## Main results

* `TnsClient.Checks.bind` — the demands of one computation behind another.
* `TnsClient.Challenge.ofSession_checks` — reading a challenge.
-/

namespace TnsClient

/-! ## Demands -/

/-- A demand on what the server has sent. -/
structure Demand where
  /-- What is demanded. -/
  met : Prop
  /-- The error where it is not so. -/
  error : AuthError

/-- All demands are met. -/
def AllMet (demands : List Demand) : Prop := ∀ demand ∈ demands, demand.met

/-- The first demand that is not met is one with this error. -/
inductive FirstFault : List Demand → AuthError → Prop
  /-- It is the first of all. -/
  | here {demand : Demand} {rest : List Demand} (h : ¬demand.met) :
    FirstFault (demand :: rest) demand.error
  /-- It comes behind one that is met. -/
  | later {demand : Demand} {rest : List Demand} {error : AuthError} (h : demand.met)
    (hrest : FirstFault rest error) : FirstFault (demand :: rest) error

section

variable {demands more : List Demand} {error : AuthError}

lemma allMet_cons {demand : Demand} :
    AllMet (demand :: demands) ↔ demand.met ∧ AllMet demands :=
  List.forall_mem_cons

lemma allMet_append : AllMet (demands ++ more) ↔ AllMet demands ∧ AllMet more :=
  List.forall_mem_append

lemma FirstFault.not_allMet (h : FirstFault demands error) : ¬AllMet demands := by
  induction h with
  | here hnot => exact fun hall => hnot (allMet_cons.1 hall).1
  | later _ _ ih => exact fun hall => ih (allMet_cons.1 hall).2

/-- There is one first fault only. -/
lemma FirstFault.unique {other : AuthError} (h : FirstFault demands error)
    (hother : FirstFault demands other) : error = other := by
  induction h with
  | here hnot =>
    cases hother with
    | here => rfl
    | later hmet => exact absurd hmet hnot
  | later hmet _ ih =>
    cases hother with
    | here hnot => exact absurd hmet hnot
    | later _ hrest => exact ih hrest

/-- Where a demand is not met, there is a first one. -/
lemma allMet_or_firstFault (demands : List Demand) :
    AllMet demands ∨ ∃ error, FirstFault demands error := by
  induction demands with
  | nil => exact .inl (by simp [AllMet])
  | cons demand demands ih =>
    by_cases hmet : demand.met
    · rcases ih with hall | ⟨error, hfault⟩
      · exact .inl (allMet_cons.2 ⟨hmet, hall⟩)
      · exact .inr ⟨error, .later hmet hfault⟩
    · exact .inr ⟨demand.error, .here hmet⟩

/-- Demands are made in the order in which they stand. -/
lemma firstFault_append : FirstFault (demands ++ more) error ↔
    FirstFault demands error ∨ AllMet demands ∧ FirstFault more error := by
  induction demands with
  | nil => simp [AllMet, show ¬FirstFault [] error from nofun]
  | cons demand demands ih =>
    rw [List.cons_append, allMet_cons]
    constructor
    · intro h
      cases h with
      | here hnot => exact .inl (.here hnot)
      | later hmet hrest =>
        rcases ih.1 hrest with hfault | ⟨hall, hfault⟩
        · exact .inl (.later hmet hfault)
        · exact .inr ⟨⟨hmet, hall⟩, hfault⟩
    · rintro (h | ⟨⟨hmet, hall⟩, hfault⟩)
      · cases h with
        | here hnot => exact .here hnot
        | later hmet hrest => exact .later hmet (ih.2 (.inl hrest))
      · exact .later hmet (ih.2 (.inr ⟨hall, hfault⟩))

end

/-! ## Computations that check demands -/

/-- A computation fails only with the error of the first demand that is not met, and has a value
only where all of them are; of this value `post` is true. -/
structure Checks {α : Type} (demands : List Demand) (result : Except AuthError α)
    (post : α → Prop) : Prop where
  failed : ∀ error, result = .error error → FirstFault demands error
  passed : ∀ value, result = .ok value → AllMet demands ∧ post value

namespace Checks

variable {α β : Type} {demands more : List Demand} {result : Except AuthError α} {post : α → Prop}

/-- What has a value demands nothing. -/
lemma pure {value : α} (h : post value) : Checks [] (.ok value) post where
  failed _ := nofun
  passed _ hok := by
    cases hok
    exact ⟨by simp [AllMet], h⟩

/-- One demand: there is a value if it is met, and the error otherwise. -/
lemma single {demand : Demand} (hmet : demand.met → ∃ value, result = .ok value ∧ post value)
    (hnot : ¬demand.met → result = .error demand.error) : Checks [demand] result post := by
  by_cases h : demand.met
  · obtain ⟨value, rfl, hpost⟩ := hmet h
    refine ⟨nofun, fun _ hok => ?_⟩
    cases hok
    exact ⟨by simpa [AllMet] using h, hpost⟩
  · rw [hnot h]
    refine ⟨fun _ herror => ?_, nofun⟩
    cases herror
    exact .here h

/-- **One computation behind another** makes its demands behind those of the other. -/
theorem bind {next : α → Except AuthError β} {post' : β → Prop} (h : Checks demands result post)
    (hnext : ∀ value, post value → Checks more (next value) post') :
    Checks (demands ++ more) (result >>= next) post' := by
  rcases result with error | value
  · have hfault := h.failed error rfl
    refine ⟨fun _ herror => ?_, nofun⟩
    cases herror
    exact firstFault_append.2 (.inl hfault)
  · obtain ⟨hall, hpost⟩ := h.passed value rfl
    have hmore := hnext value hpost
    refine ⟨fun error herror => ?_, fun other hok => ?_⟩
    · exact firstFault_append.2 (.inr ⟨hall, hmore.failed error herror⟩)
    · obtain ⟨hall', hpost'⟩ := hmore.passed other hok
      exact ⟨allMet_append.2 ⟨hall, hall'⟩, hpost'⟩

/-- A demand that is known to be met need not be made. -/
lemma of_met {demand : Demand} (h : Checks (demand :: demands) result post) (hmet : demand.met) :
    Checks demands result post where
  failed error herror := by
    cases h.failed error herror with
    | here hnot => exact absurd hmet hnot
    | later _ hrest => exact hrest
  passed value hok := ⟨(allMet_cons.1 (h.passed value hok).1).2, (h.passed value hok).2⟩

end Checks

/-! ## The demands on a challenge -/

namespace Challenge

variable (data : SessionData) (name : String)

/-- The text of a parameter; it is empty if there is none. -/
def text : String := (data.value? name).getD ""

/-- The type of the password hash: the flags of the verifier data. -/
def hashType : UInt32 := (data.flags? "AUTH_VFR_DATA").getD 0

/-- The type of the newer password hash. -/
def modernType : UInt32 := 0x4815

/-- The types of the older password hash. -/
def legacyTypes : List UInt32 := [0xB152, 0x1B25]

/-- A parameter has to be sent. -/
def sent : Demand := ⟨(data.value? name).isSome = true, .missingParameter name⟩

/-- A parameter has to be hexadecimal text. -/
def hexadecimal : Demand := ⟨Hex.IsText (text data name), .invalidParameter name⟩

/-- A parameter has to be a positive number. -/
def positive : Demand := ⟨Text.CountText (text data name), .invalidParameter name⟩

/-- The password hash has to be of a known type. -/
def known : Demand :=
  ⟨hashType data = modernType ∨ hashType data ∈ legacyTypes,
    .unsupportedVerifierType (hashType data)⟩

/-- The octets of the server's half of the session key, which is encrypted. -/
def half : Bytes := (Hex.decode? (text data "AUTH_SESSKEY")).getD []

/-- The octets of keys, which depend on the type of the hash. -/
def keyLength : Nat := if hashType data = modernType then 32 else 24

/-- What is demanded of the parameters, each for itself. -/
def parameterDemands : List Demand :=
  [sent data "AUTH_VFR_DATA", known data, hexadecimal data "AUTH_VFR_DATA"] ++
  (if hashType data = modernType then
    [sent data "AUTH_PBKDF2_VGEN_COUNT", positive data "AUTH_PBKDF2_VGEN_COUNT"] else []) ++
  [sent data "AUTH_SESSKEY", hexadecimal data "AUTH_SESSKEY",
    sent data "AUTH_PBKDF2_CSK_SALT", hexadecimal data "AUTH_PBKDF2_CSK_SALT",
    sent data "AUTH_PBKDF2_SDER_COUNT", positive data "AUTH_PBKDF2_SDER_COUNT"]

/-- What is demanded of the server's half: whole blocks, and enough octets for a key. -/
def halfDemands : List Demand :=
  [⟨(half data).length % cipherBlockSize = 0, .cipher .unaligned⟩,
    ⟨keyLength data ≤ (half data).length, .invalidParameter "AUTH_SESSKEY"⟩]

/-- **What is demanded of a challenge**, in this order. -/
def demands : List Demand := parameterDemands data ++ halfDemands data

/-! ## Reading a challenge -/

variable {data name}

/-- A parameter is there if it was sent. -/
lemma required_checks : Checks [sent data name] (required data name)
    fun value => data.value? name = some value := by
  unfold required sent
  rcases data.value? name with _ | value
  · exact .single (by simp) fun _ => rfl
  · exact .single (fun _ => ⟨value, rfl, rfl⟩) (by simp)

/-- Octets are read from hexadecimal text. -/
lemma octets_checks : Checks [sent data name, hexadecimal data name] (octets data name)
    fun octets => Hex.decode? (text data name) = some octets := by
  show Checks ([sent data name] ++ [hexadecimal data name]) _ _
  refine required_checks.bind fun value hvalue => ?_
  have htext : text data name = value := by rw [text, hvalue, Option.getD_some]
  unfold hexadecimal
  rw [htext]
  refine .single (fun hhex => ?_) fun hnot => ?_
  · obtain ⟨octets, hoctets⟩ := Hex.exists_decode?_iff.2 hhex
    exact ⟨octets, by rw [hoctets]; rfl, hoctets⟩
  · rcases hdecode : Hex.decode? value with _ | octets
    · rfl
    · exact absurd (Hex.exists_decode?_iff.1 ⟨octets, hdecode⟩) hnot

/-- A count is read from a positive number. -/
lemma count_checks : Checks [sent data name, positive data name] (count data name)
    fun _ => True := by
  show Checks ([sent data name] ++ [positive data name]) _ _
  refine required_checks.bind fun value hvalue => ?_
  have htext : text data name = value := by rw [text, hvalue, Option.getD_some]
  unfold positive
  rw [htext]
  refine .single (fun hcount => ?_) fun hnot => ?_
  · obtain ⟨number, hnumber, hne⟩ := Text.readUInt32_trim_iff.2 hcount
    exact ⟨number.toNat, by simp only [hnumber, if_neg hne]; rfl, trivial⟩
  · rcases hread : Text.readUInt32 (Text.trim value).toList with fault | number
    · rfl
    · have hzero : number = 0 := by
        by_contra hne
        exact hnot (Text.readUInt32_trim_iff.1 ⟨number, hread, hne⟩)
      simp only [hzero, if_true]
      rfl

/-- Three types of password hashes are known. -/
lemma ofType_checks : Checks [known data] (VerifierGeneration.ofType (hashType data))
    fun generation => (generation = .modern12c ↔ hashType data = modernType) := by
  unfold known VerifierGeneration.ofType modernType legacyTypes
  generalize hashType data = type
  refine .single (fun hknown => ?_) fun hnot => ?_
  · split_ifs with hlegacy hmodern
    · refine ⟨_, rfl, by simp; rintro rfl; revert hlegacy; decide⟩
    · exact ⟨_, rfl, by simp [hmodern]⟩
    · simp_all
  · rw [if_neg (by simp_all), if_neg (by simp_all)]

/-- Before the rest the iterations of the newer hash are read; of the older hash there are none. -/
lemma hashIterations_checks {generation : VerifierGeneration}
    {rest : Nat → Except AuthError Challenge} {demands : List Demand} {post : Challenge → Prop}
    (hgeneration : generation = .modern12c ↔ hashType data = modernType)
    (hrest : ∀ iterations, Checks demands (rest iterations) post) :
    Checks ((if hashType data = modernType then
        [sent data "AUTH_PBKDF2_VGEN_COUNT", positive data "AUTH_PBKDF2_VGEN_COUNT"] else []) ++
          demands)
      (match generation with
        | .modern12c => count data "AUTH_PBKDF2_VGEN_COUNT" >>= rest
        | .legacy11g => pure 0 >>= rest) post := by
  rw [← if_congr hgeneration rfl rfl]
  cases generation with
  | legacy11g => exact hrest 0
  | modern12c => exact count_checks.bind fun iterations _ => hrest iterations

/-- **Reading a challenge** checks its parameters, and leaves the type of the hash and the server's
half for later. -/
theorem ofSession_checks : Checks (parameterDemands data) (ofSession data) fun challenge =>
    (challenge.generation = .modern12c ↔ hashType data = modernType) ∧
      challenge.encryptedHalf = half data := by
  refine required_checks.bind fun value hvalue => ?_
  have hsent : (sent data "AUTH_VFR_DATA").met := by simp [sent, hvalue]
  refine ofType_checks.bind fun generation hgeneration => ?_
  refine (octets_checks.of_met hsent).bind fun verifierData _ => ?_
  refine hashIterations_checks hgeneration fun hashIterations => ?_
  refine octets_checks.bind fun encryptedHalf hhalf => ?_
  refine octets_checks.bind fun keySalt _ => ?_
  rw [← List.append_nil [sent data "AUTH_PBKDF2_SDER_COUNT", _]]
  refine count_checks.bind fun keyIterations _ => ?_
  exact .pure ⟨hgeneration, by simp [half, hhalf]⟩

end Challenge

end TnsClient
