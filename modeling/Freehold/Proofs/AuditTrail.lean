import Freehold.Proofs.Ownership

/-!
The audit trail replays to the claims. Every operation appends one entry for each cell whose owner
it changes and none for any other, so the entries of a cell lead from nobody to its present owner.
-/

namespace Freehold
open Std

def Trail : Option Owner → List HistoryEntry → Option Owner → Prop
  | old, [], new => old = new
  -- Each entry goes on from where the one before it ended.
  | old, e :: es, new => e.previousOwner = old ∧ e.Fits ∧ Trail e.newOwner es new

/-- A trail is a chain of entries, each of which goes on from the owner that the last one led to.
Two trails make one where they meet. -/
theorem Trail.append {old middle new : Option Owner} {es rest : List HistoryEntry}
    (h : Trail old es middle) (hr : Trail middle rest new) : Trail old (es ++ rest) new := by
  induction es generalizing old with
  | nil =>
    cases h
    exact hr
  | cons e es ih => exact ⟨h.1,h.2.1,ih h.2.2⟩

namespace Store

structure Records (t t' : Store) (entries : List HistoryEntry) : Prop where
  history : t'.history = t.history ++ entries
  told : ∀ cell, t.ownerOf cell ≠ t'.ownerOf cell →
    ∃ e, entries.filter (·.cell = cell) = [e] ∧ e.Tells (t.ownerOf cell) (t'.ownerOf cell)
  untold : ∀ cell, t.ownerOf cell = t'.ownerOf cell → entries.filter (·.cell = cell) = []

variable {t t' : Store} {entries : List HistoryEntry}

theorem ownerOf_empty {cell : Cell} : ({} : Store).ownerOf cell = none := by
  rw [ownerOf, ExtTreeMap.getElem?_empty]
  rfl

theorem records_of_tables_eq (h : t' = t) : t.Records t' [] := by
  subst h
  exact ⟨(List.append_nil _).symm,fun _ hne => absurd rfl hne,fun _ _ => rfl⟩

/-- Where cells move together, the entries written about them record it: each change of owner once,
and nothing else. -/
theorem Moves.records {cells : List Cell} {old new : Option Owner}
    (h : t.Moves t' cells old new entries) : t.Records t' entries := by
  refine ⟨h.history, ?_, ?_⟩
  · intro cell hne
    have hcell : cell ∈ cells := h.mem_of_ownerOf_ne hne
    rw [h.before cell hcell, h.after cell hcell]
    exact h.told cell hcell
  · intro cell heq
    by_cases hcell : cell ∈ cells
    · obtain ⟨e, -, he⟩ := h.told cell hcell
      rw [h.before cell hcell, h.after cell hcell] at heq
      exact absurd heq he.changed
    · exact h.untold cell hcell

theorem Records.historyOf_eq (h : t.Records t' entries) (cell : Cell) :
    t'.historyOf cell = t.historyOf cell ++ entries.filter (·.cell = cell) := by
  rw [historyOf, h.history, List.filter_append, historyOf]

/-- Where the entries of a cell led to its owner, they still do with those that were appended. -/
theorem Records.trail (h : t.Records t' entries) {cell : Cell} {first : Option Owner}
    (ht : Trail first (t.historyOf cell) (t.ownerOf cell)) :
    Trail first (t'.historyOf cell) (t'.ownerOf cell) := by
  rw [h.historyOf_eq]
  refine ht.append ?_
  by_cases heq : t.ownerOf cell = t'.ownerOf cell
  · rw [h.untold cell heq]
    exact heq
  · obtain ⟨e, he, htells⟩ := h.told cell heq
    rw [he]
    exact ⟨htells.previous,htells.fits,htells.next⟩

/-- A cell gets one entry when it changes its owner, and none when it does not. -/
theorem Records.length_filter (h : t.Records t' entries) (cell : Cell) :
    (entries.filter (·.cell = cell)).length =
      if t.ownerOf cell = t'.ownerOf cell then 0 else 1 := by
  split
  · next heq =>
    rw [h.untold cell heq]
    rfl
  · next hne =>
    obtain ⟨e, he, -⟩ := h.told cell hne
    rw [he]
    rfl

end Store

/-- A command that is carried out records what it does, a new name being nothing to record. -/
theorem Command.ComesTo.records {stamp : Stamp} {s : Realm} {c : Command} {p : Plan Answer}
    {t : Store} (hc : c.ComesTo stamp s p) (h : s.InSync) (hd : s.directory.RowsKeyed)
    (hw : s.storage.tables.writeAll p.batch = .ok t) :
    s.storage.tables.Records t (Batch.entries p.batch) := by
  obtain ⟨cells, old, new, entries, hm, -⟩ := hc.moves h hd hw
  have he : Batch.entries p.batch = entries := by
    apply List.append_cancel_left
    exact (Store.history_writeAll hw).symm.trans hm.history
  exact he ▸ hm.records

theorem Command.ComesTo.entries_rename {stamp : Stamp} {s : Realm} {a : Actor}
    {village : VillageId} {name : String} {p : Plan Answer}
    (hc : (Command.rename a village name).ComesTo stamp s p) : Batch.entries p.batch = [] := by
  cases hc
  rw [Plan.batch_map, Plan.entries_rename]

namespace Managed
variable {s : Realm}

theorem records (h : Managed s) (o : Operation) (stamp : Stamp) :
    ∃ entries, s.storage.tables.Records (o.run stamp s).realm.storage.tables entries ∧
      ((∃ a village name, o = .command (.rename a village name)) → entries = []) := by
  -- A command that was refused heals nothing here, so only plans that were carried out write.
  rcases h.inSync.run_cases o stamp with hr | ⟨c,p,rfl,hc,hp⟩
  · exact ⟨[],Store.records_of_tables_eq hr.tables,fun _ => rfl⟩
  · refine ⟨_,hc.records h.inSync h.rowsKeyed hp.written, ?_⟩
    rintro ⟨a, village, name, ho⟩
    cases ho
    exact hc.entries_rename

/-- The entries of a cell lead from nobody to its present owner. -/
theorem trail (h : Managed s) (cell : Cell) :
    Trail none (s.storage.tables.historyOf cell) (s.storage.tables.ownerOf cell) := by
  induction h with
  | @start s empty started =>
    have ht : s.start.realm.storage.tables = {} :=
      (Realm.recalls_start started).tables.trans empty
    rw [ht]
    exact Store.ownerOf_empty.symm
  | run managed o stamp ih =>
    obtain ⟨entries, hr, -⟩ := managed.records o stamp
    exact hr.trail ih

/-- The audit trail of a server, read from its beginning, leads each cell from nobody to its present
owner. An operation only appends to it: one entry for each cell whose owner it changes, none for the
others, and so none for a new name. -/
theorem history_replays (h : Managed s) :
    (∀ cell, Trail none (s.storage.tables.historyOf cell) (s.storage.tables.ownerOf cell)) ∧
    ∀ (o : Operation) (stamp : Stamp), ∃ entries,
      (o.run stamp s).realm.storage.tables.history = s.storage.tables.history ++ entries ∧
      (∀ cell, (entries.filter (·.cell = cell)).length =
        if s.storage.tables.ownerOf cell = (o.run stamp s).realm.storage.tables.ownerOf cell
        then 0 else 1) ∧
      ((∃ a village name, o = .command (.rename a village name)) → entries = []) := by
  refine ⟨h.trail, fun o stamp => ?_⟩
  obtain ⟨entries, hr, hrename⟩ := h.records o stamp
  exact ⟨entries,hr.history,hr.length_filter,hrename⟩

end Managed

/-- The three entries of a cell that was claimed, became land of a village and was given back. -/
theorem Sample.hamlet_history_replays :
    Managed hamlet ∧
    (hamlet.storage.tables.historyOf (road 0)).map (·.action) =
      [.claimed,.transferred,.unclaimed] ∧
    Trail none (hamlet.storage.tables.historyOf (road 0)) none ∧
    ∃ entries, (ending.run (stamp 9) hamlet).realm.storage.tables.history =
        hamlet.storage.tables.history ++ entries ∧
      (entries.filter (·.cell = road 2)).length = 1 ∧
      (entries.filter (·.cell = road 0)).length = 0 := by
  obtain ⟨htrail, hrun⟩ := managed_hamlet.history_replays
  have hactions : (hamlet.storage.tables.historyOf (road 0)).map (·.action) =
      [.claimed,.transferred,.unclaimed] := by
    decide +kernel
  have howner : hamlet.storage.tables.ownerOf (road 0) = none := by
    decide +kernel
  obtain ⟨entries, hhistory, hcount, -⟩ := hrun ending (stamp 9)
  refine ⟨managed_hamlet, hactions, howner ▸ htrail (road 0), entries, hhistory, ?_, ?_⟩
  · rw [hcount]
    decide +kernel
  · rw [hcount]
    decide +kernel

end Freehold
