import Mathlib.Data.List.Nodup
import TnsClient.Proofs.Cache.Contents
import TnsClient.Proofs.Client.Transition

set_option autoImplicit false

/-!
# The cursors of a client

A client knows of the cursors that it keeps open and of those that wait to be closed. For a
statement in flight the server may have opened one more. When the statement is done the client takes that one
in as well, and lets none of the others go: it is kept in place of an older one, which is then to be
closed, or it is to be closed itself.

## Main definitions

* `TnsClient.Client.cursors` — the cursors that a client knows of.
* `TnsClient.Client.Keeps` — it knows of each of them once.
* `TnsClient.InFlight.Uses` — a statement in flight uses the cursor that is kept for its text.

## Main results

* `TnsClient.Client.settleCursor_cursors` — a statement that is done leaves its new cursor behind.
* `TnsClient.Client.launched_uses` — a statement that is started uses the cursor of its text.
-/

namespace TnsClient

/-! ## Cursors to close -/

namespace Cleanup

variable {cleanup : Cleanup} {cursor : UInt16}

lemma closeCursor_cursors (hzero : cursor ≠ 0) (hnew : cursor ∉ cleanup.cursors) :
    (cleanup.closeCursor cursor).cursors = cleanup.cursors ++ [cursor] := by
  simp [closeCursor, hzero, hnew]

lemma closeCursor_eq_self (h : cursor = 0 ∨ cursor ∈ cleanup.cursors) :
    cleanup.closeCursor cursor = cleanup := by
  simp [closeCursor, h]

/-- Whatever is put out or forgotten, and was known before, is known afterwards. -/
lemma closeCursor?_perm {known : List UInt16} {closing : Option UInt16} {cache : StatementCache}
    (hperm : known.Perm (closing.toList ++ cache.cursors))
    (hdistinct : (known ++ cleanup.cursors).Nodup) (hnonzero : 0 ∉ known ++ cleanup.cursors) :
    (cache.cursors ++ (cleanup.closeCursor? closing).cursors).Perm (known ++ cleanup.cursors) := by
  rcases closing with _ | cursor
  · exact hperm.symm.append_right _
  · have hmem : cursor ∈ known := hperm.mem_iff.2 (List.mem_cons_self ..)
    have hzero : cursor ≠ 0 := fun heq => hnonzero (List.mem_append_left _ (heq ▸ hmem))
    have hnew : cursor ∉ cleanup.cursors := fun hother =>
      (List.disjoint_of_nodup_append hdistinct) hmem hother
    have hmoved : (cache.cursors ++ (cleanup.cursors ++ [cursor])).Perm
        (cursor :: cache.cursors ++ cleanup.cursors) := by
      rw [← List.append_assoc]
      exact List.perm_append_singleton _ _
    rw [closeCursor?, closeCursor_cursors hzero hnew]
    exact hmoved.trans (hperm.symm.append_right _)

end Cleanup

/-! ## Cursors of a client -/

/-- A task as a caller makes it: a statement is of the kind that its text tells, and has no cursor
yet. -/
def Task.IsPlain : Task → Prop
  | statement request _ => request.kind = StatementKind.ofSql request.sql ∧ request.cursor = 0
  | _ => True

namespace Client

variable {client : Client} {flight : InFlight} {request : StatementRequest} {handle : Handle}

/-- The cursors that a client knows of: those that are kept open, and those that wait to be
closed. -/
def cursors (client : Client) : List UInt16 := client.statements.cursors ++ client.cleanup.cursors

/-- A client knows of each of its cursors once, and keeps them only where that is of use. -/
structure Keeps (client : Client) : Prop where
  cache : client.statements.WellFormed
  cacheable : ∀ sql ∈ client.statements.texts, (StatementKind.ofSql sql).isCacheable = true
  distinct : client.cursors.Nodup
  nonzero : 0 ∉ client.cursors

/-- A cursor that is kept does not wait to be closed. -/
lemma Keeps.not_closing (h : client.Keeps) {cursor : UInt16}
    (hcursor : cursor ∈ client.statements.cursors) : cursor ∉ client.cleanup.cursors :=
  fun hclosing => List.disjoint_of_nodup_append h.distinct hcursor hclosing

end Client

/-- The cursor that the server has opened for a statement in flight, if it has. -/
def InFlight.fresh (flight : InFlight) (request : StatementRequest) : List UInt16 :=
  if flight.result.cursor = request.cursor then [] else [flight.result.cursor]

/-- A statement in flight is of the kind that its text tells and uses the cursor that is kept for
its text, and the client does not know yet of the cursor that the server has opened for it. -/
structure InFlight.Uses (flight : InFlight) (client : Client) (request : StatementRequest) : Prop
    where
  kind : request.kind = StatementKind.ofSql request.sql
  sent : client.statements.cursorOf request.sql = request.cursor
  distinct : (flight.fresh request ++ client.cursors).Nodup
  nonzero : 0 ∉ flight.fresh request

namespace Client

variable {client : Client} {flight : InFlight} {request : StatementRequest} {handle : Handle}

/-- The cursor with which a statement in flight was sent is kept, if it is one. -/
lemma sent_mem (huses : flight.Uses client request) (hzero : request.cursor ≠ 0) :
    request.cursor ∈ client.statements.cursors := by
  obtain ⟨cached, hfind, hcursor⟩ := StatementCache.find?_of_cursorOf huses.sent hzero
  exact hcursor ▸ StatementCache.mem_cursors hfind

/-- Neither the cursor with which a statement in flight was sent nor the one that is known for it
now waits to be closed. -/
lemma not_closing (hkeeps : client.Keeps) (huses : flight.Uses client request) :
    request.cursor ∉ client.cleanup.cursors ∧ flight.result.cursor ∉ client.cleanup.cursors := by
  have hsent : request.cursor ∉ client.cleanup.cursors := by
    by_cases hzero : request.cursor = 0
    · rw [hzero]
      exact fun hclosing => hkeeps.nonzero (List.mem_append_right _ hclosing)
    · exact hkeeps.not_closing (sent_mem huses hzero)
  refine ⟨hsent, ?_⟩
  by_cases hsame : flight.result.cursor = request.cursor
  · rwa [hsame]
  · have hdistinct := huses.distinct
    rw [InFlight.fresh, if_neg hsame, List.singleton_append, List.nodup_cons] at hdistinct
    exact fun hclosing => hdistinct.1 (List.mem_append_right _ hclosing)

/-! ## A statement that is done -/

/-- A statement that was executed leaves its new cursor behind. -/
lemma keepCursor_cursors (hkeeps : client.Keeps) (huses : flight.Uses client request) :
    (client.keepCursor request flight.result).cursors.Perm
        (flight.fresh request ++ client.cursors) ∧
      (client.keepCursor request flight.result).statements.WellFormed ∧
      ∀ sql ∈ (client.keepCursor request flight.result).statements.texts,
        (StatementKind.ofSql sql).isCacheable = true := by
  have hdistinct := huses.distinct
  have hnonzero := huses.nonzero
  unfold InFlight.fresh at hdistinct hnonzero ⊢
  unfold keepCursor
  by_cases hzero : flight.result.cursor = 0
  · -- the server has named no cursor, so the statement was sent without one
    have hsame : flight.result.cursor = request.cursor := by
      by_contra hother
      rw [if_neg hother, hzero] at hnonzero
      exact hnonzero (List.mem_singleton_self _)
    rw [if_pos hzero, if_pos hsame]
    exact ⟨List.Perm.refl _, hkeeps.cache, hkeeps.cacheable⟩
  rw [if_neg hzero]
  by_cases hcacheable : request.kind.isCacheable = true
  · rw [if_pos hcacheable]
    let kept : CachedStatement := ⟨flight.result.cursor, flight.result.columns⟩
    obtain ⟨hwellFormed, htexts⟩ :=
      StatementCache.insert_wellFormed hkeeps.cache request.sql kept
    refine ⟨?_, hwellFormed, fun sql hmem => ?_⟩
    · by_cases hsame : flight.result.cursor = request.cursor
      · -- the cursor that is kept for the text already
        rw [if_pos hsame]
        obtain ⟨cached, hfind, hcursor⟩ :=
          StatementCache.find?_of_cursorOf huses.sent (hsame ▸ hzero)
        have hkept : cached.cursor = kept.cursor := hcursor.trans hsame.symm
        obtain ⟨hclosing, hperm⟩ :=
          StatementCache.insert_cursors_of_find? hkeeps.cache hfind hkept
        show ((client.statements.insert request.sql kept).2.cursors ++ (client.cleanup.closeCursor?
          (client.statements.insert request.sql kept).1).cursors).Perm _
        rw [hclosing]
        exact hperm.symm.append_right client.cleanup.cursors
      · rw [if_neg hsame] at hdistinct hnonzero ⊢
        rw [List.singleton_append] at hdistinct
        have hnew : kept.cursor ∉ client.statements.cursors := fun hmem =>
          (List.nodup_cons.1 hdistinct).1 (List.mem_append_left _ hmem)
        have hperm := StatementCache.insert_cursors hkeeps.cache request.sql hnew
        refine Cleanup.closeCursor?_perm hperm hdistinct ?_
        rw [List.cons_append, List.mem_cons, not_or]
        exact ⟨Ne.symm hzero, hkeeps.nonzero⟩
    · rcases htexts sql hmem with rfl | hkept
      · rw [← huses.kind]
        exact hcacheable
      · exact hkeeps.cacheable sql hkept
  · rw [if_neg hcacheable]
    refine ⟨?_, hkeeps.cache, hkeeps.cacheable⟩
    -- no cursor is kept for such a text, so the statement was sent without one
    have hsent : request.cursor = 0 := by
      by_contra hcursor
      obtain ⟨cached, hfind, -⟩ := StatementCache.find?_of_cursorOf huses.sent hcursor
      have hmem := StatementCache.mem_texts hfind
      rw [huses.kind] at hcacheable
      exact hcacheable (hkeeps.cacheable request.sql hmem)
    have hother : flight.result.cursor ≠ request.cursor := hsent ▸ hzero
    rw [if_neg hother, List.singleton_append] at hdistinct
    rw [if_neg hother]
    have hnew : flight.result.cursor ∉ client.cleanup.cursors := fun hmem =>
      (List.nodup_cons.1 hdistinct).1 (List.mem_append_right _ hmem)
    unfold cursors
    rw [Cleanup.closeCursor_cursors hzero hnew, ← List.append_assoc]
    exact List.perm_append_singleton _ _

/-- A statement that has failed leaves all its cursors to be closed. -/
lemma dropCursor_cursors (hkeeps : client.Keeps) (huses : flight.Uses client request) :
    (client.dropCursor request flight.result).cursors.Perm
        (flight.fresh request ++ client.cursors) ∧
      (client.dropCursor request flight.result).statements.WellFormed ∧
      ∀ sql ∈ (client.dropCursor request flight.result).statements.texts,
        (StatementKind.ofSql sql).isCacheable = true := by
  have hdistinct := huses.distinct
  have hnonzero := huses.nonzero
  unfold InFlight.fresh at hdistinct hnonzero ⊢
  obtain ⟨hremoved, htexts, hwellFormed⟩ :=
    StatementCache.remove_cursors hkeeps.cache request.sql
  refine ⟨?_, hwellFormed, fun sql hmem => hkeeps.cacheable sql (htexts sql hmem)⟩
  let closing := (client.statements.remove request.sql).1
  let cache := (client.statements.remove request.sql).2
  let cleanup := client.cleanup.closeCursor? closing
  have hperm : (cache.cursors ++ cleanup.cursors).Perm client.cursors :=
    Cleanup.closeCursor?_perm hremoved hkeeps.distinct hkeeps.nonzero
  show (cache.cursors ++ (cleanup.closeCursor flight.result.cursor).cursors).Perm _
  by_cases hsame : flight.result.cursor = request.cursor
  · -- the cursor of the text is to be closed already
    have hclosed : flight.result.cursor = 0 ∨ flight.result.cursor ∈ cleanup.cursors := by
      by_cases hzero : request.cursor = 0
      · exact .inl (hsame.trans hzero)
      · right
        obtain ⟨cached, hfind, hcursor⟩ := StatementCache.find?_of_cursorOf huses.sent hzero
        have hnew : request.cursor ∉ client.cleanup.cursors :=
          hkeeps.not_closing (sent_mem huses hzero)
        have hclosing : closing = some request.cursor := by
          simp [closing, StatementCache.remove, hfind, hcursor]
        have hcursors : cleanup.cursors = client.cleanup.cursors ++ [request.cursor] := by
          simp only [cleanup, hclosing, Cleanup.closeCursor?]
          exact Cleanup.closeCursor_cursors hzero hnew
        rw [hsame, hcursors]
        exact List.mem_append_right _ (List.mem_singleton_self _)
    rw [if_pos hsame, Cleanup.closeCursor_eq_self hclosed]
    exact hperm
  · rw [if_neg hsame, List.singleton_append] at hdistinct
    rw [if_neg hsame] at hnonzero ⊢
    have hzero : flight.result.cursor ≠ 0 := fun heq =>
      hnonzero (List.mem_singleton.2 heq.symm)
    have hnew : flight.result.cursor ∉ cleanup.cursors := fun hmem =>
      (List.nodup_cons.1 hdistinct).1 (hperm.mem_iff.1 (List.mem_append_right _ hmem))
    rw [Cleanup.closeCursor_cursors hzero hnew, ← List.append_assoc]
    exact (List.perm_append_singleton _ _).trans (hperm.cons _)

/-- **A statement that is done** leaves its new cursor behind, whether it has failed or not, and
the client goes on knowing all others. -/
lemma settleCursor_cursors (hkeeps : client.Keeps)
    (htask : flight.task = .statement request handle) (huses : flight.Uses client request) :
    (client.settleCursor flight).cursors.Perm (flight.fresh request ++ client.cursors) ∧
      (client.settleCursor flight).Keeps := by
  have hall : (client.settleCursor flight).cursors.Perm
        (flight.fresh request ++ client.cursors) ∧
      (client.settleCursor flight).statements.WellFormed ∧
      ∀ sql ∈ (client.settleCursor flight).statements.texts,
        (StatementKind.ofSql sql).isCacheable = true := by
    unfold settleCursor
    rw [htask]
    dsimp only
    split_ifs
    · exact dropCursor_cursors hkeeps huses
    · exact keepCursor_cursors hkeeps huses
  obtain ⟨hperm, hwellFormed, htexts⟩ := hall
  refine ⟨hperm, hwellFormed, htexts, hperm.nodup_iff.2 huses.distinct, ?_⟩
  rw [hperm.mem_iff, List.mem_append, not_or]
  exact ⟨huses.nonzero, hkeeps.nonzero⟩

/-! ## Starting the next statement -/

/-- Looking for the cursor of a task changes nothing but the order. -/
lemma launched_keeps (hkeeps : client.Keeps) (task : Task) :
    (client.launched task).cursors.Perm client.cursors ∧ (client.launched task).Keeps := by
  have hconsulted : (client.consulted task).cursors.Perm client.statements.cursors ∧
      (client.consulted task).texts.Perm client.statements.texts ∧
      (client.consulted task).WellFormed := by
    cases task with
    | statement request handle =>
      unfold consulted
      dsimp only
      split_ifs
      · exact ⟨List.Perm.refl _, List.Perm.refl _, hkeeps.cache⟩
      · exact StatementCache.get?_cursors hkeeps.cache request.sql
    | _ => exact ⟨List.Perm.refl _, List.Perm.refl _, hkeeps.cache⟩
  obtain ⟨hcursors, htexts, hcache⟩ := hconsulted
  have hperm : (client.launched task).cursors.Perm client.cursors :=
    hcursors.append_right client.cleanup.cursors
  refine ⟨hperm, hcache, fun sql hmem => hkeeps.cacheable sql (htexts.mem_iff.1 hmem),
    hperm.nodup_iff.2 hkeeps.distinct, fun hmem => hkeeps.nonzero (hperm.mem_iff.1 hmem)⟩

/-- A statement that is started uses the cursor that is kept for its text. -/
lemma launched_uses (hkeeps : client.Keeps) {task : Task} (hplain : task.IsPlain)
    (htask : (task.begin (client.entry task)).task = .statement request handle) :
    (task.begin (client.entry task)).Uses (client.launched task) request ∧
      (task.begin (client.entry task)).result.cursor = request.cursor := by
  have hlaunched := (launched_keeps hkeeps task).2
  cases task with
  | statement asked handle' =>
    obtain ⟨hkind, hcursor⟩ := hplain
    obtain ⟨hrequest, -⟩ := Task.statement.inj htask
    obtain ⟨hsql, hkind'⟩ := asked.withEntry_text (client.entry (.statement asked handle'))
    have hsent :=
      StatementRequest.withEntry_cursor hcursor (client.entry (.statement asked handle'))
    rw [hrequest] at hsql hkind' hsent
    have hfound : (client.launched (.statement asked handle')).statements.cursorOf asked.sql =
        client.statements.cursorOf asked.sql := by
      unfold launched consulted StatementCache.cursorOf
      simp [hcursor, StatementCache.find?_get?]
    have hsame : ((Task.statement asked handle').begin
        (client.entry (.statement asked handle'))).result.cursor = request.cursor := by
      rw [← hrequest]
      rfl
    have hfresh : ((Task.statement asked handle').begin
        (client.entry (.statement asked handle'))).fresh request = [] := if_pos hsame
    refine ⟨⟨?_, ?_, ?_, ?_⟩, hsame⟩
    · rw [hkind', hsql, hkind]
    · rw [hsql, hfound, hsent]
      rfl
    · rw [hfresh]
      exact hlaunched.distinct
    · rw [hfresh]
      exact List.not_mem_nil
  | _ => simp [Task.begin] at htask

end Client

end TnsClient
