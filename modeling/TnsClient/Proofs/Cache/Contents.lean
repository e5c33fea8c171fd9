import Mathlib.Data.List.Nodup
import Mathlib.Tactic.Lemma
import TnsClient.Client.StatementCache

set_option autoImplicit false

/-!
# What is in a cache

What the three operations of a cache do to the cursors that it keeps. Using a cursor keeps them all,
forgetting one takes out just that one, and keeping one more takes it in and puts out at most one
other. A cursor that is put out or forgotten is handed back, so none is lost.

## Main definitions

* `TnsClient.StatementCache.cursors`, `TnsClient.StatementCache.texts` — what is kept.
* `TnsClient.StatementCache.cursorOf` — the cursor of a text, 0 for none.
* `TnsClient.StatementCache.WellFormed` — no text is kept twice, and there are not too many.

## Main results

* `TnsClient.StatementCache.get?_cursors` — using a cursor keeps them all.
* `TnsClient.StatementCache.remove_cursors` — a cursor that is forgotten is handed back.
* `TnsClient.StatementCache.insert_cursors` — so is one that has to make room.
-/

namespace TnsClient.StatementCache

variable {cache : StatementCache} {sql : String} {statement : CachedStatement}

/-- The cursors that are kept. -/
def cursors (cache : StatementCache) : List UInt16 :=
  cache.entries.map fun entry => entry.2.cursor

/-- The texts whose cursors are kept. -/
def texts (cache : StatementCache) : List String := cache.entries.map Prod.fst

/-- The cursor that is kept for a text, 0 if there is none. -/
def cursorOf (cache : StatementCache) (sql : String) : UInt16 :=
  ((cache.find? sql).map CachedStatement.cursor).getD 0

/-- No text is kept twice, and there are not too many. -/
structure WellFormed (cache : StatementCache) : Prop where
  distinct : cache.texts.Nodup
  bounded : cache.entries.length ≤ cache.capacity

lemma wellFormed_empty (capacity : Nat) : ({ capacity } : StatementCache).WellFormed where
  distinct := List.nodup_nil
  bounded := Nat.zero_le _

/-! ## Looking -/

/-- The entry that is found is the one of its text; the others are all the rest. -/
lemma entries_perm (h : cache.texts.Nodup) (hfind : cache.find? sql = some statement) :
    cache.entries.Perm ((sql, statement) :: cache.others sql) := by
  unfold texts at h
  unfold find? at hfind
  unfold others
  generalize cache.entries = entries at h hfind ⊢
  induction entries with
  | nil => simp at hfind
  | cons entry entries ih =>
    obtain ⟨text, kept⟩ := entry
    rw [List.map_cons, List.nodup_cons] at h
    obtain ⟨hnew, hrest⟩ := h
    by_cases htext : sql = text
    · subst htext
      have hkept : kept = statement := by simpa using hfind
      rw [List.filter_cons_of_neg (by simp), List.filter_eq_self.2, hkept]
      rintro ⟨other, cached⟩ hother
      have hmem : other ∈ entries.map Prod.fst :=
        List.mem_map_of_mem (a := (other, cached)) hother
      have hne : other ≠ sql := fun heq => hnew (heq ▸ hmem)
      simpa using hne
    · have hbeq : (sql == text) = false := by simpa using htext
      have hfind' : entries.lookup sql = some statement := by
        simpa only [List.lookup_cons, hbeq] using hfind
      have hne : (text != sql) = true := by simpa using fun heq : text = sql => htext heq.symm
      rw [List.filter_cons, if_pos hne]
      exact ((ih hrest hfind').cons _).trans (List.Perm.swap _ _ _)

/-- A text that is not found is not kept. -/
lemma not_mem_texts (hfind : cache.find? sql = none) : sql ∉ cache.texts := by
  intro hmem
  obtain ⟨⟨text, kept⟩, hentry, rfl⟩ := List.mem_map.1 hmem
  have hnone := List.lookup_eq_none_iff.1 hfind (text, kept) hentry
  simp at hnone

lemma others_eq_entries (hfind : cache.find? sql = none) : cache.others sql = cache.entries := by
  unfold others
  rw [List.filter_eq_self]
  rintro ⟨text, kept⟩ hentry
  have hne : text ≠ sql := fun heq => not_mem_texts hfind (heq ▸ List.mem_map_of_mem hentry)
  simpa using hne

/-- The texts of the other cursors are those kept but one. -/
lemma texts_others (h : cache.texts.Nodup) (sql : String) :
    ((cache.others sql).map Prod.fst).Nodup ∧ sql ∉ (cache.others sql).map Prod.fst ∧
      (cache.others sql).length ≤ cache.entries.length := by
  have hsublist : (cache.others sql).Sublist cache.entries := List.filter_sublist
  refine ⟨h.sublist (hsublist.map _), ?_, hsublist.length_le⟩
  intro hmem
  obtain ⟨entry, hentry, htext⟩ := List.mem_map.1 hmem
  have hne := (List.mem_filter.1 hentry).2
  simp [htext] at hne

/-- What is found is an entry. -/
lemma mem_entries (hfind : cache.find? sql = some statement) :
    (sql, statement) ∈ cache.entries := by
  unfold find? at hfind
  generalize cache.entries = entries at hfind ⊢
  induction entries with
  | nil => simp at hfind
  | cons entry entries ih =>
    obtain ⟨text, kept⟩ := entry
    by_cases htext : sql = text
    · subst htext
      have hkept : kept = statement := by simpa using hfind
      exact hkept ▸ List.mem_cons_self ..
    · have hbeq : (sql == text) = false := by simpa using htext
      have hrest : entries.lookup sql = some statement := by
        simpa only [List.lookup_cons, hbeq] using hfind
      exact List.mem_cons_of_mem _ (ih hrest)

lemma mem_cursors (hfind : cache.find? sql = some statement) : statement.cursor ∈ cache.cursors :=
  List.mem_map_of_mem (mem_entries hfind)

lemma mem_texts (hfind : cache.find? sql = some statement) : sql ∈ cache.texts :=
  List.mem_map_of_mem (mem_entries hfind)

/-- The cursor that is kept for a text is one of those kept. -/
lemma find?_of_cursorOf {cursor : UInt16} (hcursor : cache.cursorOf sql = cursor)
    (hzero : cursor ≠ 0) :
    ∃ cached, cache.find? sql = some cached ∧ cached.cursor = cursor := by
  unfold cursorOf at hcursor
  rcases hfind : cache.find? sql with _ | cached
  · rw [hfind] at hcursor
    exact absurd hcursor.symm hzero
  · rw [hfind] at hcursor
    exact ⟨cached, rfl, hcursor⟩

/-! ## Using a cursor -/

/-- Looking for the cursor of a statement does not change which one is kept. -/
lemma find?_get? (cache : StatementCache) (sql : String) :
    (cache.get? sql).2.find? sql = cache.find? sql := by
  unfold get?
  rcases hfind : cache.find? sql with _ | cached
  · exact hfind
  · simp [find?]

/-- Using a cursor changes the order of the entries only. -/
lemma get?_entries (h : cache.texts.Nodup) (sql : String) :
    (cache.get? sql).2.entries.Perm cache.entries ∧
      (cache.get? sql).2.capacity = cache.capacity := by
  unfold get?
  rcases hfind : cache.find? sql with _ | cached
  · exact ⟨List.Perm.refl _, rfl⟩
  · exact ⟨(entries_perm h hfind).symm, rfl⟩

/-- **Using a cursor** keeps them all. -/
lemma get?_cursors (h : cache.WellFormed) (sql : String) :
    (cache.get? sql).2.cursors.Perm cache.cursors ∧ (cache.get? sql).2.texts.Perm cache.texts ∧
      (cache.get? sql).2.WellFormed := by
  obtain ⟨hperm, hcapacity⟩ := get?_entries h.distinct sql
  refine ⟨hperm.map _, hperm.map _, (hperm.map Prod.fst).nodup_iff.2 h.distinct, ?_⟩
  rw [hperm.length_eq, hcapacity]
  exact h.bounded

/-! ## Forgetting a cursor -/

/-- **Forgetting a cursor** hands back just that one. -/
lemma remove_cursors (h : cache.WellFormed) (sql : String) :
    cache.cursors.Perm ((cache.remove sql).1.toList ++ (cache.remove sql).2.cursors) ∧
      (∀ text ∈ (cache.remove sql).2.texts, text ∈ cache.texts) ∧
      (cache.remove sql).2.WellFormed := by
  obtain ⟨hdistinct, -, hlength⟩ := texts_others h.distinct sql
  have hsublist : (cache.others sql).Sublist cache.entries := List.filter_sublist
  refine ⟨?_, fun text hmem => (hsublist.map Prod.fst).subset hmem, hdistinct,
    Nat.le_trans hlength h.bounded⟩
  rcases hfind : cache.find? sql with _ | cached
  · simp [remove, cursors, hfind, others_eq_entries hfind]
  · have hperm := (entries_perm h.distinct hfind).map fun entry => entry.2.cursor
    simpa [remove, cursors, hfind] using hperm

/-! ## Keeping a cursor -/

/-- The entries once a cursor is kept: with the entry that makes room for it, if there is one, they
are what was there before and the new entry. -/
lemma insert_entries (h : cache.WellFormed) (hcapacity : cache.capacity ≠ 0) (sql : String)
    (statement : CachedStatement) :
    ∃ text, ((cache.displaced? sql).toList.map (fun old => (text, old)) ++
      ((sql, statement) :: cache.others sql).take cache.capacity).Perm
        ((sql, statement) :: cache.entries) := by
  have hbounded := h.bounded
  unfold displaced?
  rcases hfind : cache.find? sql with _ | old
  · rw [others_eq_entries hfind]
    by_cases hroom : cache.size < cache.capacity
    · refine ⟨sql, ?_⟩
      have hall : ((sql, statement) :: cache.entries).take cache.capacity =
          (sql, statement) :: cache.entries := by
        rw [List.take_of_length_le]
        exact Nat.succ_le_of_lt hroom
      simp [hroom, hall]
    · -- the cache is full, so the last entry makes room
      have hfull : cache.entries.length = cache.capacity := by
        unfold size at hroom
        omega
      rcases List.eq_nil_or_concat cache.entries with hnil | ⟨front, last, hlast⟩
      · rw [hnil, List.length_nil] at hfull
        exact absurd hfull.symm hcapacity
      · rw [List.concat_eq_append] at hlast
        refine ⟨last.1, ?_⟩
        have hfront : ((sql, statement) :: cache.entries).take cache.capacity =
            (sql, statement) :: front := by
          rw [← hfull, hlast]
          simp
        rw [if_neg hroom, hfront, hlast, List.getLast?_concat]
        exact (List.Perm.swap _ _ _).trans ((List.perm_append_singleton _ _).symm.cons _)
  · refine ⟨sql, ?_⟩
    have hperm := entries_perm h.distinct hfind
    have hall : ((sql, statement) :: cache.others sql).take cache.capacity =
        (sql, statement) :: cache.others sql := by
      rw [List.take_of_length_le]
      have hlength := hperm.length_eq
      simp only [List.length_cons] at hlength ⊢
      omega
    simp only [hall, Option.toList_some, List.map_cons, List.map_nil, List.cons_append,
      List.nil_append]
    exact (List.Perm.swap _ _ _).trans (hperm.symm.cons _)

/-- A cache that keeps one more cursor is well-formed, and keeps no other text. -/
lemma insert_wellFormed (h : cache.WellFormed) (sql : String) (statement : CachedStatement) :
    (cache.insert sql statement).2.WellFormed ∧
      ∀ text ∈ (cache.insert sql statement).2.texts, text = sql ∨ text ∈ cache.texts := by
  unfold insert
  split_ifs with hcapacity
  · exact ⟨h, fun text hmem => .inr hmem⟩
  · obtain ⟨hdistinct, hnew, -⟩ := texts_others h.distinct sql
    have htake : (((sql, statement) :: cache.others sql).take cache.capacity).Sublist
        ((sql, statement) :: cache.others sql) := List.take_sublist _ _
    refine ⟨⟨?_, ?_⟩, ?_⟩
    · have hall : (((sql, statement) :: cache.others sql).map Prod.fst).Nodup :=
        List.nodup_cons.2 ⟨hnew, hdistinct⟩
      exact hall.sublist (htake.map _)
    · rw [List.length_take]
      exact Nat.min_le_left _ _
    · intro text hmem
      have hmem' : text ∈ ((sql, statement) :: cache.others sql).map Prod.fst :=
        (htake.map Prod.fst).subset hmem
      rcases List.mem_cons.1 hmem' with htext | hothers
      · exact .inl htext
      · have hsublist : (cache.others sql).Sublist cache.entries := List.filter_sublist
        exact .inr ((hsublist.map Prod.fst).subset hothers)

/-- Whatever makes room is kept. -/
lemma displaced?_mem {old : CachedStatement} (hold : cache.displaced? sql = some old) :
    old.cursor ∈ cache.cursors := by
  unfold displaced? at hold
  rcases hfind : cache.find? sql with _ | found
  · rw [hfind] at hold
    dsimp only at hold
    split_ifs at hold
    obtain ⟨entry, hlast, rfl⟩ := Option.map_eq_some_iff.1 hold
    exact List.mem_map_of_mem (List.mem_of_getLast? hlast)
  · rw [hfind] at hold
    obtain rfl := Option.some.inj hold
    exact mem_cursors hfind

/-- **Keeping a cursor** that is not kept yet hands back one that has to make room, if there is one,
or the cursor itself if there is no room at all. -/
lemma insert_cursors (h : cache.WellFormed) (sql : String) {statement : CachedStatement}
    (hnew : statement.cursor ∉ cache.cursors) :
    (statement.cursor :: cache.cursors).Perm
      ((cache.insert sql statement).1.toList ++ (cache.insert sql statement).2.cursors) := by
  unfold insert
  split_ifs with hcapacity
  · exact List.Perm.refl _
  · obtain ⟨text, hperm⟩ := insert_entries h hcapacity sql statement
    have hcursors := hperm.map fun entry => entry.2.cursor
    rcases hdisplaced : cache.displaced? sql with _ | old
    · simpa [cursors, hdisplaced] using hcursors.symm
    · have hold : old.cursor ≠ statement.cursor :=
        fun heq => hnew (heq ▸ displaced?_mem hdisplaced)
      simpa [cursors, hdisplaced, hold, Option.filter] using hcursors.symm

/-- Keeping the cursor that is kept for a text already closes none. -/
lemma insert_cursors_of_find? (h : cache.WellFormed) {old : CachedStatement}
    (hfind : cache.find? sql = some old) (hsame : old.cursor = statement.cursor) :
    (cache.insert sql statement).1 = none ∧
      cache.cursors.Perm (cache.insert sql statement).2.cursors := by
  have hentries := entries_perm h.distinct hfind
  have hlength := hentries.length_eq
  rw [List.length_cons] at hlength
  have hbounded := h.bounded
  have hcapacity : cache.capacity ≠ 0 := by omega
  have hall : ((sql, statement) :: cache.others sql).take cache.capacity =
      (sql, statement) :: cache.others sql := by
    rw [List.take_of_length_le]
    rw [List.length_cons]
    omega
  unfold insert
  rw [if_neg hcapacity]
  refine ⟨?_, ?_⟩
  · simp [displaced?, hfind, hsame, Option.filter]
  · have hcursors := hentries.map fun entry => entry.2.cursor
    simpa [cursors, hall, hsame] using hcursors

end TnsClient.StatementCache
