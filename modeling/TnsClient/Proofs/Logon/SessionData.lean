import Mathlib.Data.List.Induction
import Mathlib.Data.List.Nodup
import TnsClient.Encoder.Logon
import TnsClient.Message.Parameters
import TnsClient.Proofs.Wire.Form

set_option autoImplicit false

/-!
# Named values on the wire

Named values are written one behind the other, each with lengths that are said twice and flags, and
the number of them stands in front. A name may come more than once, and then the last value counts.
Whoever reads the values holds one for each name that came, and leaves alone what stands behind.

## Main definitions

* `TnsClient.LogonPair.octets` — the octets of a named value.
* `TnsClient.LogonPair.IsLast` — a named value is the last one of its name.
* `TnsClient.SessionData.Holds` — session data hold the last value of each name, and nothing else.

## Main results

* `TnsClient.SessionData.Holds.insert` — a value that is added is the last one of its name.
* `TnsClient.Decode.Reads.sessionValue` — a named value is read from its octets.
* `TnsClient.Decode.authParameters_pairs` — named values are read into the data that hold them.
-/

namespace TnsClient

/-! ## The last value of a name -/

namespace LogonPair

/-- The octets of a named value. -/
def octets (pair : LogonPair) : Bytes :=
  Encode.keyValue pair.name (Utf8.encode pair.value) pair.flags

/-- The entry that holds a named value. -/
def entry (pair : LogonPair) : String × SessionValue := (pair.name, ⟨pair.value, pair.flags⟩)

/-- None of the values behind a named value has its name. -/
def IsLast (pair : LogonPair) (pairs : List LogonPair) : Prop :=
  ∃ front back, pairs = front ++ pair :: back ∧ ∀ later ∈ back, later.name ≠ pair.name

variable {pair added : LogonPair} {pairs : List LogonPair}

lemma not_isLast_nil : ¬pair.IsLast [] := by
  rintro ⟨front, back, h, -⟩
  simp at h

/-- One more value is the last one of its name, and leaves alone those of other names. -/
lemma isLast_concat_iff : pair.IsLast (pairs ++ [added]) ↔
    if pair.name = added.name then pair = added else pair.IsLast pairs := by
  constructor
  · rintro ⟨front, back, hsplit, hlater⟩
    rcases List.eq_nil_or_concat back with rfl | ⟨back, last, rfl⟩
    · obtain ⟨-, hsame⟩ := List.append_inj' hsplit rfl
      obtain rfl := List.singleton_inj.1 hsame
      rw [if_pos rfl]
    · rw [List.concat_eq_append, ← List.cons_append, ← List.append_assoc] at hsplit
      obtain ⟨hpairs, hsame⟩ := List.append_inj' hsplit rfl
      obtain rfl := List.singleton_inj.1 hsame
      rw [if_neg (Ne.symm (hlater added (by simp)))]
      exact ⟨front, back, hpairs, fun later hmem => hlater later (by simp [hmem])⟩
  · intro h
    split_ifs at h with hname
    · exact ⟨pairs, [], by rw [h], by simp⟩
    · obtain ⟨front, back, rfl, hlater⟩ := h
      refine ⟨front, back ++ [added], by simp, fun later hmem => ?_⟩
      rcases List.mem_append.1 hmem with hback | hadded
      · exact hlater later hback
      · rw [List.mem_singleton.1 hadded]
        exact Ne.symm hname

end LogonPair

/-! ## What is held -/

namespace SessionData

variable {entries : List (String × SessionValue)} {name : String} {value : SessionValue}

lemma lookup_cons_eq (other name : String) (value : SessionValue)
    (rest : List (String × SessionValue)) : ((name, value) :: rest).lookup other =
      if other = name then some value else rest.lookup other := by
  rw [List.lookup_cons]
  split_ifs with hname
  · rw [beq_iff_eq.2 hname]
  · rw [beq_eq_false_iff_ne.2 hname]

/-- What is put under a name is found there, and under the other names what was. -/
lemma lookup_put (other : String) : (put name value entries).lookup other =
    if other = name then some value else entries.lookup other := by
  induction entries with
  | nil => exact lookup_cons_eq other name value []
  | cons first rest ih =>
    obtain ⟨held, old⟩ := first
    unfold put
    rcases eq_or_ne held name with rfl | hheld
    · rw [if_pos rfl, lookup_cons_eq, lookup_cons_eq]
      split_ifs <;> rfl
    · rw [if_neg hheld, lookup_cons_eq, lookup_cons_eq, ih]
      split_ifs with hother hname
      · exact absurd (hother.symm.trans hname) hheld
      all_goals rfl

lemma mem_names_put {other : String} (h : other ∈ (put name value entries).map Prod.fst) :
    other = name ∨ other ∈ entries.map Prod.fst := by
  induction entries with
  | nil => simpa [put] using h
  | cons first rest ih =>
    obtain ⟨held, old⟩ := first
    unfold put at h
    split_ifs at h with hheld
    · simp only [List.map_cons, List.mem_cons] at h ⊢
      tauto
    · simp only [List.map_cons, List.mem_cons] at h ih ⊢
      tauto

/-- No name comes to be there twice. -/
lemma nodup_put (h : (entries.map Prod.fst).Nodup) :
    ((put name value entries).map Prod.fst).Nodup := by
  induction entries with
  | nil => simp [put]
  | cons first rest ih =>
    obtain ⟨held, old⟩ := first
    obtain ⟨hnew, hrest⟩ := List.nodup_cons.1 h
    unfold put
    split_ifs with hheld
    · rw [List.map_cons, ← hheld]
      exact List.nodup_cons.2 ⟨hnew, hrest⟩
    · rw [List.map_cons]
      refine List.nodup_cons.2 ⟨fun hmem => ?_, ih hrest⟩
      exact (mem_names_put hmem).elim hheld hnew

/-- Where no name is there twice, each entry is the one that is found under its name. -/
lemma lookup_eq_some_iff_mem (h : (entries.map Prod.fst).Nodup) :
    entries.lookup name = some value ↔ (name, value) ∈ entries := by
  induction entries with
  | nil => simp
  | cons first rest ih =>
    obtain ⟨held, old⟩ := first
    obtain ⟨hnew, hrest⟩ := List.nodup_cons.1 h
    rw [lookup_cons_eq, List.mem_cons, Prod.mk.injEq]
    split_ifs with hname
    · subst hname
      have hnone : (name, value) ∉ rest := fun hmem => hnew (List.mem_map.2 ⟨_, hmem, rfl⟩)
      simp [hnone, eq_comm]
    · simp [hname, ih hrest]

/-- Session data hold the last value of each name, with its flags, and nothing else. -/
structure Holds (data : SessionData) (pairs : List LogonPair) : Prop where
  /-- No name is there twice. -/
  names : (data.entries.map Prod.fst).Nodup
  /-- What is found under a name is the last value of that name. -/
  find : ∀ pair : LogonPair,
    data.find? pair.name = some ⟨pair.value, pair.flags⟩ ↔ pair.IsLast pairs
  /-- What is held is the last value of its name. -/
  entry : ∀ pair : LogonPair, pair.entry ∈ data.entries ↔ pair.IsLast pairs

variable {data : SessionData} {pairs : List LogonPair}

lemma Holds.of_find (hnames : (data.entries.map Prod.fst).Nodup)
    (hfind : ∀ pair : LogonPair,
      data.find? pair.name = some ⟨pair.value, pair.flags⟩ ↔ pair.IsLast pairs) :
    data.Holds pairs :=
  ⟨hnames, hfind, fun pair => (lookup_eq_some_iff_mem hnames).symm.trans (hfind pair)⟩

lemma holds_empty : SessionData.empty.Holds [] :=
  .of_find List.nodup_nil fun _ => iff_of_false (by simp [find?, empty]) LogonPair.not_isLast_nil

/-- **A value that is added** is the last one of its name. -/
lemma Holds.insert (h : data.Holds pairs) (pair : LogonPair) :
    (data.insert pair.name pair.value pair.flags).Holds (pairs ++ [pair]) := by
  refine .of_find (nodup_put h.names) fun other => ?_
  rw [LogonPair.isLast_concat_iff, ← h.find other]
  show (put pair.name ⟨pair.value, pair.flags⟩ data.entries).lookup other.name = _ ↔ _
  rw [lookup_put]
  split_ifs with hname
  · obtain ⟨name, value, flags⟩ := pair
    obtain ⟨name', value', flags'⟩ := other
    simp only at hname
    simp [hname, eq_comm]
  · rfl

/-- All values are added one by one. -/
lemma extend_concat (data : SessionData) (pairs : List LogonPair) (pair : LogonPair) :
    data.extend ⟨(pairs ++ [pair]).map LogonPair.entry⟩ =
      (data.extend ⟨pairs.map LogonPair.entry⟩).insert pair.name pair.value pair.flags := by
  unfold extend
  rw [List.map_append, List.foldl_append]
  rfl

/-- **Values that are added to nothing** are held. -/
lemma holds_extend (pairs : List LogonPair) :
    (SessionData.empty.extend ⟨pairs.map LogonPair.entry⟩).Holds pairs := by
  induction pairs using List.reverseRecOn with
  | nil => exact holds_empty
  | append_singleton pairs pair ih =>
    rw [extend_concat]
    exact ih.insert pair

end SessionData

/-! ## Reading -/

namespace Decode

lemma getD_text (text : String) :
    (if (Utf8.encode text).isEmpty then none else some text).getD "" = text := by
  split_ifs with hempty
  · have hdecoded := Utf8.decode?_encode text
    rw [List.isEmpty_iff.1 hempty] at hdecoded
    exact Option.some.inj hdecoded
  · rfl

/-- A value is read if its length is not zero, and an empty one is left out; then the reader goes
on. -/
lemma Reads.valueText {α : Type} {next : Option String → Decode α} {used : Bytes} {result : α}
    (value : String) (hlength : (Utf8.encode value).length < UInt32.size)
    (hnext : (next (if (Utf8.encode value).isEmpty then none else some value)).Reads used result) :
    Reads (if UInt32.ofNat (Utf8.encode value).length > 0 then text "auth value" >>= next
        else Pure.pure none >>= next)
      ((if (Utf8.encode value).isEmpty then [] else Encode.byteString (Utf8.encode value)) ++ used)
      result := by
  have hpos : UInt32.ofNat (Utf8.encode value).length > 0 ↔ ¬(Utf8.encode value).isEmpty := by
    rw [gt_iff_lt, UInt32.lt_iff_toNat_lt, UInt32.toNat_ofNat_of_lt' hlength, List.isEmpty_iff,
      ← List.length_eq_zero_iff]
    exact Nat.pos_iff_ne_zero
  have htext := Reads.text_self "auth value" value
  split_ifs at htext hnext ⊢ with hsaid hempty hempty
  · exact absurd hempty (hpos.1 hsaid)
  · exact htext.bind hnext
  · exact (Reads.pure none).bind hnext
  · exact absurd (hpos.2 hempty) hsaid

/-- **A named value** is read from its octets. -/
lemma Reads.sessionValue (pair : LogonPair)
    (hlength : (Utf8.encode pair.value).length < UInt32.size) :
    Decode.sessionValue.Reads pair.octets pair.entry := by
  have hname := Reads.text_self "auth key" pair.name
  have hentry : pair.entry =
      ((if (Utf8.encode pair.name).isEmpty then none else some pair.name).getD "",
        ⟨(if (Utf8.encode pair.value).isEmpty then none else some pair.value).getD "",
          pair.flags⟩) := by
    rw [getD_text, getD_text]
    rfl
  rw [hentry, LogonPair.octets, Encode.keyValue, List.append_assoc, List.append_assoc,
    List.append_assoc]
  refine (Reads.skipUb4 (.ub4 _)).bind ?_
  refine hname.bind ?_
  refine (Reads.ub4_self _).bind ?_
  refine Reads.valueText pair.value hlength ?_
  exact (Reads.ub4_self pair.flags).map _

/-- **Named values** are read into session data that hold them. -/
lemma Reads.authParameters {pairs : List LogonPair} (hcount : pairs.length < UInt16.size)
    (hlength : ∀ pair ∈ pairs, (Utf8.encode pair.value).length < UInt32.size) :
    Decode.authParameters.Reads
      (Encode.ub2 (UInt16.ofNat pairs.length) ++ pairs.flatMap LogonPair.octets)
      (SessionData.empty.extend ⟨pairs.map LogonPair.entry⟩) := by
  have hnumber : (UInt16.ofNat pairs.length).toNat = pairs.length :=
    UInt16.toNat_ofNat_of_lt' hcount
  have hfront := Reads.ub2 (.ub2 (UInt16.ofNat pairs.length))
  rw [UInt16.ofNat_toNat] at hfront
  refine hfront.bind ?_
  rw [hnumber]
  have hvalues := Reads.times_of_mem fun pair hmem => Reads.sessionValue pair (hlength pair hmem)
  exact hvalues.map fun values => SessionData.empty.extend ⟨values⟩

/-- **Named values make a round trip.** As many as a message can count, with names, values and
flags of any kind and values of any length that can be said, are read back whatever stands behind
them: into session data that hold the last value of each name, with its flags, and nothing else.

**Proof sketch.** Each value is read from exactly its own octets, an empty one as well as one in
chunks; so the right number of them is read in a row, and what stands behind is left. Of what is
read, the last value of each name replaces those before it. -/
theorem authParameters_pairs (pairs : List LogonPair) (rest : Bytes)
    (hcount : pairs.length ≤ 65535)
    (hlengths : ∀ pair ∈ pairs, (Utf8.encode pair.value).length < 2 ^ 32) :
    ∃ data, Decode.authParameters (Encode.ub2 (UInt16.ofNat pairs.length) ++
        pairs.flatMap LogonPair.octets ++ rest) = .ok (data, rest) ∧
      data.Holds pairs :=
  ⟨_, (Reads.authParameters (Nat.lt_succ_of_le hcount) hlengths).complete rest,
    SessionData.holds_extend pairs⟩

/-- A name that comes twice, a value that has no name, and a value that is empty. -/
theorem authParameters_pairs_repeated :
    let pairs : List LogonPair := [⟨"AUTH_SESSKEY", "A1B2", 1⟩, ⟨"", "nameless", 7⟩,
      ⟨"AUTH_SESSKEY", "", 0⟩]
    (pairs.length ≤ 65535 ∧ ∀ pair ∈ pairs, (Utf8.encode pair.value).length < 2 ^ 32) ∧
      ∃ data, Decode.authParameters (Encode.ub2 (UInt16.ofNat pairs.length) ++
          pairs.flatMap LogonPair.octets ++ [9]) = .ok (data, [9]) ∧
        data.Holds pairs ∧ data.find? "AUTH_SESSKEY" = some ⟨"", 0⟩ := by
  intro pairs
  have hcount : pairs.length ≤ 65535 := by decide
  have hlengths : ∀ pair ∈ pairs, (Utf8.encode pair.value).length < 2 ^ 32 := by
    decide +kernel
  obtain ⟨data, hread, hholds⟩ := authParameters_pairs pairs [9] hcount hlengths
  have hlast : LogonPair.IsLast ⟨"AUTH_SESSKEY", "", 0⟩ pairs :=
    ⟨[⟨"AUTH_SESSKEY", "A1B2", 1⟩, ⟨"", "nameless", 7⟩], [], rfl, by simp⟩
  exact ⟨⟨hcount, hlengths⟩, data, hread, hholds, (hholds.find _).2 hlast⟩

end Decode

end TnsClient
