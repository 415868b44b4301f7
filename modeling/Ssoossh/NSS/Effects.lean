import Ssoossh.NSS.Evolution

/-!
# What storing an entry does

One specification for each part of a store.  Writing an entry (`WriteSpec`) refreshes
the row it is anchored to, or inserts one, or is refused; on the way a DN is released.
Recording the collisions (`RecordSpec`) withholds and releases rows and does nothing
else to them.  Together they say what a store does to the rows (`Stores`), whatever the
entry and the others that the read found.
-/

namespace Ssoossh.NSS

open Relational Transactional Tx List Sheet

variable {α : Type} {t : NSSTable α}

/-! ## Writing an entry -/

/-- What writing an entry does to a row: nothing, unless it is the one the entry is
anchored to or it has the entry's DN. -/
inductive Wrote (e : NSSEntryRef) (follow : PosixRow α → PosixRow α) (now : Int)
    (target : Option String) : PosixRow α → PosixRow α → Prop
  | kept {row : PosixRow α} : Wrote e follow now target row row
  | released {row : PosixRow α} (dn : row.dn = e.dn) (other : target ≠ some row.id) :
      Wrote e follow now target row { row with dn := "", updatedAt := now }
  | refreshed {row : PosixRow α} (name : String) (anchor : target = some row.id) :
      Wrote e follow now target row (refresh e follow name now row)

/-- What writing an entry does, where `target` is the row it is anchored to and `born` the
row it may insert. -/
structure WriteSpec (e : NSSEntryRef) (follow : PosixRow α → PosixRow α) (now : Int)
    (target : Option String) (born : PosixRow α) (s : Sheet t) (out : Written α) (s' : Sheet t) :
    Prop where
  evolves : Evolves (Wrote e follow now target) (· = born) s s'
  stored : ∀ row, out.stored = some row → row ∈ s'.rows.rows
  anchored : target ≠ none → out.stored.map (·.id) = target
  fresh : target = none → ∀ row, out.stored = some row → ∀ old ∈ s.rows.rows, old.id ≠ row.id
  births : ∀ row ∈ s'.rows.rows, (∀ old ∈ s.rows.rows, old.id ≠ row.id) →
    out.stored.map (·.id) = some row.id
  contended : ∀ k ∈ out.contended, k.otherDN = e.dn ∧ k.otherID = out.stored.map (·.id) ∧
    (∃ row ∈ s'.rows.rows, row.id = k.holderID) ∧ k.otherID ≠ some k.holderID
  collisions : ∀ k, k ∈ s'.collisions.rows ↔
    k ∈ s.collisions.rows ∧ k ∉ out.resolved.getD []
  order : s.ids.Sublist s'.ids

variable {u : PUnit} {id : String} {contended : List NSSCollision} {row : PosixRow α}

section Writing

variable {s s' : Sheet t} {e : NSSEntryRef} {follow : PosixRow α → PosixRow α} {now : Int}

theorem of_releaseDN {dn exceptID : String}
    (h : (releaseDN dn exceptID now : SheetTx t PUnit).run s = .ok (u, s')) :
    s'.collisions = s.collisions ∧ s'.ids = s.ids ∧ Evolves (fun row row' => row' = row ∨
      row.dn = dn ∧ row.id ≠ exceptID ∧ row' = { row with dn := "", updatedAt := now })
      (fun _ => False) s s' := by
  have order := ids_of_updateRows h (fun _ => rfl) fun _ => rfl
  obtain ⟨collisions, evolves⟩ := evolves_of_updateRows (E := fun row row' => row' = row ∨
      row.dn = dn ∧ row.id ≠ exceptID ∧ row' = { row with dn := "", updatedAt := now })
    (B := fun _ => False) h (fun _ => rfl)
    (fun row _ here => .inr (by simpa [and_assoc] using here)) fun _ _ _ => .inl rfl
  exact ⟨collisions, order, evolves⟩

variable {out : PosixRow α × List NSSCollision}

/-- The last part of `updateMatched`. -/
theorem of_refreshRow {name : String} (ids : ∀ row, (follow row).id = row.id)
    (created : ∀ row, (follow row).createdAt = row.createdAt) (h : (do
      updateRows (fun other => other.id == id) (refresh e follow name now)
      let updated ← firstByID id
      pure (updated, contended) : SheetTx t _).run s = .ok (out, s')) :
    s'.collisions = s.collisions ∧ s'.ids = s.ids ∧ Evolves (fun row row' =>
        row.id ≠ id ∧ row' = row ∨ row.id = id ∧ row' = refresh e follow name now row)
        (fun _ => False) s s' ∧
      out.1 ∈ s'.rows.rows ∧ out.1.id = id ∧ out.2 = contended := by
  obtain ⟨_, m, first, h⟩ := run_bind_eq_ok.mp h
  obtain ⟨updated, m', second, third⟩ := run_bind_eq_ok.mp h
  obtain ⟨rfl, member, same⟩ := of_firstByID second
  obtain ⟨rfl, rfl⟩ := run_pure_eq_ok.mp third
  obtain ⟨collisions, evolves⟩ := evolves_of_updateRows (E := fun row row' =>
      row.id ≠ id ∧ row' = row ∨ row.id = id ∧ row' = refresh e follow name now row)
    (B := fun _ => False) first ids
    (fun row _ here => .inr ⟨by simpa using here, rfl⟩)
    (fun row _ here => .inl ⟨by simpa using here, rfl⟩)
  exact ⟨collisions, ids_of_updateRows first ids created, evolves, member, same, rfl⟩

/-- Releasing a DN and then refreshing the row that takes it. -/
theorem Wrote.of_steps {name : String} {a b c : PosixRow α} (same : b.id = a.id)
    (first : b = a ∨ a.dn = e.dn ∧ a.id ≠ id ∧ b = { a with dn := "", updatedAt := now })
    (second : b.id ≠ id ∧ c = b ∨ b.id = id ∧ c = refresh e follow name now b) :
    Wrote e follow now (some id) a c := by
  rcases first with rfl | ⟨dn, apart, rfl⟩
  · rcases second with ⟨-, rfl⟩ | ⟨rfl, rfl⟩
    · exact .kept
    · exact .refreshed name rfl
  · rcases second with ⟨-, rfl⟩ | ⟨here, -⟩
    · exact .released dn fun same => apart (Option.some.inj same).symm
    · exact (apart here).elim

theorem of_updateMatched (ids : ∀ row, (follow row).id = row.id)
    (created : ∀ row, (follow row).createdAt = row.createdAt)
    (h : (updateMatched id e follow now : SheetTx t _).run s = .ok (out, s')) :
    s'.collisions = s.collisions ∧ s'.ids = s.ids ∧
      Evolves (Wrote e follow now (some id)) (fun _ => False) s s' ∧
      out.1 ∈ s'.rows.rows ∧ out.1.id = id ∧
      ∀ k ∈ out.2, k.otherDN = e.dn ∧ k.otherID = some id ∧
        (∃ row ∈ s.rows.rows, row.id = k.holderID) ∧ k.holderID ≠ id := by
  obtain ⟨row, m₀, first, h₁⟩ := run_bind_eq_ok.mp h
  obtain ⟨here, -, rfl⟩ := of_firstByID first
  rw [here] at h₁
  have h₂ := run_get_bind_eq_ok.mp h₁
  obtain ⟨_, m, third, h⟩ := run_bind_eq_ok.mp h₂
  -- whether or not the DN moves, the rows before the update are those that kept theirs
  have released : m.collisions = s.collisions ∧ m.ids = s.ids ∧ Evolves (fun old new => new = old ∨
      old.dn = e.dn ∧ old.id ≠ row.id ∧ new = { old with dn := "", updatedAt := now })
      (fun _ => False) s m := by
    unfold moveDN at third
    split_ifs at third with stays
    · obtain ⟨-, rfl⟩ := run_pure_eq_ok.mp third
      exact ⟨rfl, rfl, .of_rows_eq rfl fun _ => .inl rfl⟩
    · exact of_releaseDN third
  obtain ⟨collisions, order, release⟩ := released
  cases held : s.nameHolder e row with
  | none =>
    rw [held] at h
    obtain ⟨collisions', order', refreshes, member, same, contended⟩ := of_refreshRow ids created h
    refine ⟨collisions'.trans collisions, order'.trans order, release.comp refreshes
      (fun same => Wrote.of_steps same) (fun no _ => no.elim) fun no => no, member, same, ?_⟩
    rw [contended]
    exact fun k none => absurd none not_mem_nil
  | some holder =>
    rw [held] at h
    obtain ⟨collisions', order', refreshes, member, same, contended⟩ := of_refreshRow ids created h
    refine ⟨collisions'.trans collisions, order'.trans order, release.comp refreshes
      (fun same => Wrote.of_steps same) (fun no _ => no.elim) fun no => no, member, same, ?_⟩
    rw [contended]
    intro k only
    obtain rfl := mem_singleton.mp only
    unfold nameHolder at held
    split at held
    · cases held
    · obtain ⟨there, picked⟩ := of_first held
      simp only [Bool.and_eq_true, beq_iff_eq, bne_iff_ne] at picked
      exact ⟨rfl, rfl, ⟨holder, there, rfl⟩, picked.2⟩

/-- A matched row is updated. -/
theorem writeSpec_of_updateMatched {born : PosixRow α} (ids : ∀ row, (follow row).id = row.id)
    (created : ∀ row, (follow row).createdAt = row.createdAt)
    (h : (updateMatched id e follow now : SheetTx t _).run s = .ok (out, s')) :
    WriteSpec e follow now (some id) born s ⟨some out.1, out.2, false, none⟩ s' := by
  obtain ⟨collisions, order, evolves, member, rfl, contended⟩ := of_updateMatched ids created h
  refine ⟨evolves.mono (fun _ wrote => wrote) fun no => no.elim, ?_, fun _ => rfl, nofun, ?_, ?_, ?_,
    order ▸ .refl _⟩
  · rintro row ⟨⟩
    exact member
  · intro row after new
    rcases evolves.origin row after with ⟨old, before, id, -⟩ | ⟨no, -⟩
    · exact (new old before id.symm).elim
    · exact no.elim
  · intro k contends
    obtain ⟨dn, other, ⟨row, before, same⟩, apart⟩ := contended k contends
    obtain ⟨row', after, id, -⟩ := evolves.persists row before
    refine ⟨dn, other, ⟨row', after, id.trans same⟩, fun self => apart ?_⟩
    rw [other] at self
    exact (Option.some.inj self).symm
  · intro k
    rw [collisions]
    simp

theorem of_insertNew {out : PosixRow α} (dn : row.dn = e.dn)
    (h : (insertNew row now : SheetTx t _).run s = .ok (out, s')) :
    out = row ∧ s'.collisions = s.collisions ∧ s.ids.Sublist s'.ids ∧
      Evolves (Wrote e follow now none) (· = row) s s' ∧ row ∈ s'.rows.rows ∧
      ∀ old ∈ s.rows.rows, old.id ≠ row.id := by
  obtain ⟨_, m, first, h⟩ := run_bind_eq_ok.mp h
  obtain ⟨collisions, order, release⟩ := of_releaseDN first
  obtain ⟨_, m', second, h⟩ := run_bind_eq_ok.mp h
  obtain ⟨rfl, rfl⟩ := run_pure_eq_ok.mp h
  obtain ⟨free, rows, collisions'⟩ := of_insertRow second
  have member : row ∈ m'.rows.rows := by simp [rows]
  have fresh : ∀ old ∈ m.rows.rows, old.id ≠ row.id := fun old stored same =>
    free old stored (.inl same)
  have inserted : Evolves (fun old new => new = old) (· = row) m m' := by
    refine ⟨fun row' after => ?_, fun old before => ⟨old, by simp [rows, before], rfl, rfl⟩⟩
    rw [rows, mem_append, mem_singleton] at after
    rcases after with before | rfl
    · exact .inl ⟨row', before, rfl, rfl⟩
    · exact .inr ⟨rfl, fresh⟩
  refine ⟨rfl, collisions'.trans collisions, order ▸ ids_of_insertRow second, ?_, member,
    fun old before same => ?_⟩
  · refine release.comp inserted ?_ (fun no _ => no.elim) fun born => born
    rintro a b c - (rfl | ⟨here, -, rfl⟩) rfl
    · exact .kept
    · exact .released (here.trans dn) nofun
  · obtain ⟨old', between, id, -⟩ := release.persists old before
    exact fresh old' between (id.trans same)

/-- The values of an entry that other rows hold. -/
theorem of_heldValues {k : NSSCollision} (h : k ∈ s.heldValues e now) :
    k.otherDN = e.dn ∧ k.otherID = none ∧ ∃ row ∈ s.rows.rows, row.id = k.holderID := by
  unfold heldValues at h
  simp only [mem_append, mem_map, Option.mem_toList] at h
  rcases h with ⟨holder, held, rfl⟩ | ⟨holder, held, rfl⟩
  all_goals exact ⟨rfl, rfl, holder, (of_first held).1, rfl⟩

/-- An entry no row is anchored to is inserted or refused. -/
theorem writeSpec_of_writeNew {out : Written α} (dn : row.dn = e.dn)
    (h : (writeNew e (insertNew row now) now : SheetTx t _).run s = .ok (out, s')) :
    WriteSpec e follow now none row s out s' ∧ out.resolved = none := by
  replace h := run_get_bind_eq_ok.mp h
  split_ifs at h with free
  · obtain ⟨inserted, m, second, h⟩ := run_bind_eq_ok.mp h
    obtain ⟨rfl, rfl⟩ := run_pure_eq_ok.mp h
    obtain ⟨rfl, collisions, order, evolves, member, fresh⟩ := of_insertNew dn second
    refine ⟨⟨evolves, ?_, nofun, ?_, ?_, by simp, by simp [collisions], order⟩, rfl⟩
    · rintro _ ⟨⟩
      exact member
    · rintro - _ ⟨⟩
      exact fresh
    · intro row after new
      rcases evolves.origin row after with ⟨old, before, id, -⟩ | ⟨rfl, -⟩
      · exact (new old before id.symm).elim
      · rfl
  · obtain ⟨rfl, rfl⟩ := run_pure_eq_ok.mp h
    refine ⟨⟨.of_rows_eq rfl fun _ => .kept, by simp, by simp, by simp,
      fun row after new => (new row after rfl).elim, fun k contends => ?_, by simp, .refl _⟩, rfl⟩
    obtain ⟨at', other, holder⟩ := of_heldValues contends
    exact ⟨at', other, holder, by simp [other]⟩

end Writing

variable {settings : Settings} {s : Sheet t} {e : NSSEntryRef}

/-- The row an entry matches is stored. -/
theorem Sheet.of_matchRow (h : s.matchRow settings e = some row) : row ∈ s.rows.rows := by
  have byDN : s.matchDN e = some row → row ∈ s.rows.rows := fun found =>
    (of_first (Option.filter_eq_some_iff.mp found).1).1
  unfold matchRow at h
  split at h
  · split at h
    · rename_i first found
      obtain rfl := Option.some.inj h
      exact (of_first found).1
    · exact byDN h
  · exact byDN h

/-- The row an account is anchored to. -/
def accountAnchor (settings : Settings) (s : Sheet accountTable) (a : NSSAccount) :
    Option String :=
  (s.matchRow settings a.ref).map (·.id)

/-- The row a group is anchored to, a rename included. -/
def groupAnchor (settings : Settings) (s : Sheet groupTable) (g : NSSGroup)
    (contenders : List NSSGroup) (gone : Option (String → Bool)) : Option String :=
  ((s.matchRow settings g.ref).or (renameTarget settings s g contenders gone)).map (·.id)

variable {now : Int} {newID : String}

theorem of_writeAccount {a : NSSAccount} {disabled : Bool} {s s' : Sheet accountTable}
    {out : Written AccountColumns}
    (h : (writeAccount settings a disabled now newID).run s = .ok (out, s')) :
    WriteSpec a.ref (followAccount settings a disabled now) now (accountAnchor settings s a)
      (newAccount newID a disabled now) s out s' ∧ out.resolved = none := by
  replace h := run_get_bind_eq_ok.mp h
  unfold accountAnchor
  cases anchor : s.matchRow settings a.ref with
  | some =>
    rw [anchor] at h
    obtain ⟨updated, _, second, h⟩ := run_bind_eq_ok.mp h
    obtain ⟨rfl, rfl⟩ := run_pure_eq_ok.mp h
    exact ⟨writeSpec_of_updateMatched (fun _ => rfl) (fun _ => rfl) second, rfl⟩
  | none =>
    rw [anchor] at h
    exact writeSpec_of_writeNew rfl h

variable {g : NSSGroup} {s' : Sheet groupTable}

theorem of_reanchorGroup {target : PosixGroup} {born : PosixGroup} {s : Sheet groupTable}
    {out : Written Unit} (h : (reanchorGroup target g now).run s = .ok (out, s')) :
    WriteSpec g.ref (followGroup g now) now (some target.id) born s out s' := by
  replace h := run_get_bind_eq_ok.mp h
  obtain ⟨_, m, second, h⟩ := run_bind_eq_ok.mp h
  obtain ⟨updated, m', third, h⟩ := run_bind_eq_ok.mp h
  obtain ⟨rfl, rfl⟩ := run_pure_eq_ok.mp h
  obtain ⟨rows, deleted⟩ := of_deleteCollisions second
  have spec : WriteSpec g.ref (followGroup g now) now (some target.id) born m
      ⟨some updated.1, updated.2, false, none⟩ m' :=
    writeSpec_of_updateMatched (fun _ => rfl) (fun _ => rfl) third
  have order : s.ids = m.ids := by rw [ids, ordered, ← rows, ids, ordered]
  refine ⟨spec.evolves.of_same rows, spec.stored, spec.anchored, by simp, fun row after new => ?_,
    spec.contended, fun k => ?_, order ▸ spec.order⟩
  · exact spec.births row after (rows ▸ new)
  · rw [spec.collisions, deleted]
    simp only [Option.getD_some, Option.getD_none, not_mem_nil, not_false_eq_true, and_true,
      Rel.mem_select, not_and, Bool.not_eq_true]
    exact and_congr_right fun stored => ⟨fun free _ => free, fun free => free stored⟩

theorem of_writeGroup {contenders : List NSSGroup} {gone : Option (String → Bool)}
    {s : Sheet groupTable} {out : Written Unit}
    (h : (writeGroup settings g contenders gone now newID).run s = .ok (out, s')) :
    WriteSpec g.ref (followGroup g now) now (groupAnchor settings s g contenders gone)
      (newGroup newID g now) s out s' := by
  replace h := run_get_bind_eq_ok.mp h
  unfold groupAnchor
  cases anchor : s.matchRow settings g.ref with
  | some =>
    rw [anchor] at h
    obtain ⟨updated, _, second, h⟩ := run_bind_eq_ok.mp h
    obtain ⟨rfl, rfl⟩ := run_pure_eq_ok.mp h
    exact writeSpec_of_updateMatched (fun _ => rfl) (fun _ => rfl) second
  | none =>
    rw [anchor] at h
    cases renamed : renameTarget settings s g contenders gone with
    | some =>
      rw [renamed] at h
      exact of_reanchorGroup h
    | none =>
      rw [renamed] at h
      exact (writeSpec_of_writeNew rfl h).1

/-! ## Recording the collisions -/

theorem mem_named {pairs : List NSSCollision} :
    id ∈ named pairs ↔ ∃ p ∈ pairs, p.names id = true := by
  simp only [named, mem_flatMap, mem_cons, Option.mem_toList, NSSCollision.names,
    Bool.or_eq_true, beq_iff_eq]
  exact exists_congr fun p => and_congr_right fun _ =>
    or_congr ⟨Eq.symm, Eq.symm⟩ Iff.rfl

/-- What recording does: the rows of `ids` are judged by the collisions there are then, and
every collision that was there is still there, or was replaced by one of `pairs`, or the
rows it named are among `ids`. -/
structure RecordSpec (pairs : List NSSCollision) (ids : List String) (s s' : Sheet t) : Prop where
  rows : Evolves (Judged ids s'.Named) (fun _ => False) s s'
  origin : ∀ k ∈ s'.collisions.rows,
    (k ∈ s.collisions.rows ∧ ∀ p ∈ pairs, ¬ k.SameKey p) ∨
      ∃ p ∈ pairs, k.SameKey p ∧ k.otherID = p.otherID
  kept : ∀ k ∈ s.collisions.rows, (∀ id, k.names id = true → id ∈ ids) ∨
    (∃ p ∈ pairs, k.SameKey p) ∨ k ∈ s'.collisions.rows
  present : ∀ p ∈ pairs, ∃ k ∈ s'.collisions.rows, k.SameKey p
  affected : ∀ p ∈ pairs, ∀ id, p.names id = true → id ∈ ids

variable {stored : Option (PosixRow α)} {contenders : List NSSEntryRef} {complete : NSSKinds}

section Recording

variable {s m s' : Sheet t} {ids ids' : List String} {pairs : List NSSCollision} {now : Int}

/-- Deleting collisions, upserting others and judging the rows they name. -/
theorem recordSpec_of_upserts {q : NSSCollision → Bool} {m' : Sheet t} (rows : m.rows = s.rows)
    (deleted : ∀ k, k ∈ m.collisions.rows ↔ k ∈ s.collisions.rows ∧ q k = false)
    (upserts : Upserts pairs m m')
    (all : ∀ k ∈ s.collisions.rows, q k = true → ∀ id, k.names id = true → id ∈ ids)
    (affected : ∀ p ∈ pairs, ∀ id, p.names id = true → id ∈ ids)
    (h : (recomputeWithheld ids now : SheetTx t PUnit).run m' = .ok (u, s')) :
    RecordSpec pairs ids s s' := by
  obtain ⟨collisions, judged⟩ := of_recomputeWithheld h
  rw [← named_congr collisions] at judged
  refine ⟨judged.of_same (upserts.rows.trans rows), fun k after => ?_, fun k before => ?_,
    collisions ▸ upserts.present, affected⟩
  · refine (upserts.origin k (collisions ▸ after)).imp_left fun ⟨between, free⟩ => ?_
    exact ⟨((deleted k).mp between).1, free⟩
  · rw [collisions]
    cases picked : q k with
    | true => exact .inl (all k before picked)
    | false => exact .inr (upserts.kept k ((deleted k).mpr ⟨before, picked⟩))

/-- Deleting collisions and judging the rows they named. -/
theorem recordSpec_of_delete {q : NSSCollision → Bool} (rows : m.rows = s.rows)
    (deleted : ∀ k, k ∈ m.collisions.rows ↔ k ∈ s.collisions.rows ∧ q k = false)
    (all : ∀ k ∈ s.collisions.rows, q k = true → ∀ id, k.names id = true → id ∈ ids)
    (h : (recomputeWithheld ids now : SheetTx t PUnit).run m = .ok (u, s')) :
    RecordSpec [] ids s s' :=
  recordSpec_of_upserts rows deleted (.nil m) all (by simp) h

/-- Judging more rows. -/
theorem RecordSpec.recompute (h : RecordSpec pairs ids s m)
    (more : (recomputeWithheld ids' now : SheetTx t PUnit).run m = .ok (u, s')) :
    RecordSpec pairs (ids ++ ids') s s' := by
  obtain ⟨collisions, judged⟩ := of_recomputeWithheld more
  refine ⟨?_, ?_, fun k before => ?_, ?_, fun p member id names => ?_⟩
  · rw [named_congr collisions]
    exact h.rows.comp judged (fun _ first second => first.trans second) (fun no _ => no.elim)
      fun no => no
  · rw [collisions]
    exact h.origin
  · rw [collisions]
    exact (h.kept k before).imp_left fun all id names => mem_append_left _ (all id names)
  · rw [collisions]
    exact h.present
  · exact mem_append_left _ (h.affected p member id names)

theorem of_pruneStaleHolds {pruned : List NSSCollision}
    (h : (pruneStaleHolds row : SheetTx t _).run s = .ok (pruned, s')) :
    ∃ q, pruned = s.collisions.select q ∧ s'.rows = s.rows ∧
      ∀ k, k ∈ s'.collisions.rows ↔ k ∈ s.collisions.rows ∧ q k = false := by
  replace h := run_get_bind_eq_ok.mp h
  obtain ⟨_, _, second, h⟩ := run_bind_eq_ok.mp h
  obtain ⟨rfl, rfl⟩ := run_pure_eq_ok.mp h
  exact ⟨_, rfl, of_deleteCollisions second⟩

theorem of_pruneStored {pruned : List NSSCollision}
    (h : (pruneStored stored : SheetTx t _).run s = .ok (pruned, s')) :
    ∃ q, pruned = s.collisions.select q ∧ s'.rows = s.rows ∧
      ∀ k, k ∈ s'.collisions.rows ↔ k ∈ s.collisions.rows ∧ q k = false := by
  cases stored with
  | some => exact of_pruneStaleHolds h
  | none =>
    obtain ⟨rfl, rfl⟩ := run_pure_eq_ok.mp h
    exact ⟨fun _ => false, by simp [Rel.select], rfl, by simp⟩

theorem of_recordCollisions
    (h : (recordCollisions settings e stored contended contenders complete now : SheetTx t _).run s =
      .ok (pairs, s')) :
    pairs = observedPairs settings s e stored contended contenders now ∧
      ∃ ids, RecordSpec pairs ids s s' := by
  replace h := run_get_bind_eq_ok.mp h
  obtain ⟨pruned, m₁, second, h⟩ := run_bind_eq_ok.mp h
  obtain ⟨q₁, rfl, rows₁, deleted₁⟩ := of_pruneStored second
  replace h := run_get_bind_eq_ok.mp h
  obtain ⟨_, m₂, fourth, h⟩ := run_bind_eq_ok.mp h
  obtain ⟨q₂, stale, rows₂, deleted₂⟩ : ∃ q₂, staleCollisions settings m₁ e
      (observedPairs settings s e stored contended contenders now) complete
      ((e :: contenders).map fun c => settings.text.toLower c.dn) = m₁.collisions.select q₂ ∧
      m₂.rows = m₁.rows ∧ ∀ k, k ∈ m₂.collisions.rows ↔ k ∈ m₁.collisions.rows ∧ q₂ k = false :=
    ⟨_, rfl, of_deleteCollisions fourth⟩
  obtain ⟨_, m₃, fifth, h⟩ := run_bind_eq_ok.mp h
  obtain ⟨_, m₄, sixth, h⟩ := run_bind_eq_ok.mp h
  obtain ⟨rfl, rfl⟩ := run_pure_eq_ok.mp h
  refine ⟨rfl, _, recordSpec_of_upserts (q := fun k => q₁ k || q₂ k) (rows₂.trans rows₁)
    (fun k => ?_) (of_upsertCollisions fifth) (fun k before gone id names => ?_)
    (fun p member id names => ?_) sixth⟩
  · rw [deleted₂, deleted₁, and_assoc, Bool.or_eq_false_iff]
  · simp only [mem_append, mem_named, stale, Rel.mem_select, deleted₁]
    cases pruned : q₁ k with
    | true => exact .inl (.inl (.inr ⟨k, ⟨before, pruned⟩, names⟩))
    | false =>
      rw [pruned, Bool.false_or] at gone
      exact .inl (.inr ⟨k, ⟨⟨before, pruned⟩, gone⟩, names⟩)
  · simp only [mem_append]
    exact .inr (mem_named.mpr ⟨p, member, names⟩)

variable {p : NSSCollision}

/-- What is recorded is among what the write met and what the contenders meet. -/
theorem of_observedPairs (h : p ∈ observedPairs settings s e stored contended contenders now) :
    p ∈ contended ∨ ∃ c ∈ contenders, c.dn ≠ e.dn ∧ p ∈ contenderPairs settings s e stored now c := by
  have subset : ∀ {l : List NSSCollision} {p}, p ∈ uniqueCollisions l → p ∈ l := by
    intro l
    induction l with
    | nil => exact fun h => h
    | cons q l ih =>
      intro p h
      rcases mem_cons.mp h with rfl | h
      · exact mem_cons_self
      · exact mem_cons_of_mem q (ih (mem_filter.mp h).1)
  rcases mem_append.mp (subset h) with met | met
  · exact .inl met
  · obtain ⟨c, other, met⟩ := mem_flatMap.mp met
    obtain ⟨member, apart⟩ := mem_filter.mp other
    refine .inr ⟨c, member, fun same => ?_, met⟩
    rw [same, settings.text.equalFold_refl] at apart
    cases apart

theorem of_sharedPair {c : NSSEntryRef} {cRow : Option (PosixRow α)} {kind : NSSCollisionKind}
    {holds : PosixRow α → Bool} {value : String}
    (h : p ∈ sharedPair s e c stored cRow now kind holds value) :
    (stored.map (·.id) = some p.holderID ∧ p.otherDN = c.dn ∧ p.otherID = cRow.map (·.id)) ∨
    (stored.map (·.id) ≠ some p.holderID ∧ cRow.map (·.id) = some p.holderID ∧
      p.otherDN = e.dn ∧ p.otherID = stored.map (·.id)) := by
  unfold sharedPair at h
  cases held : s.holderOf holds "" with
  | none =>
    rw [held] at h
    cases h
  | some holder =>
    rw [held] at h
    dsimp only at h
    by_cases mine : stored.map (·.id) = some holder.id
    · rw [if_pos mine] at h
      obtain rfl := mem_singleton.mp h
      exact .inl ⟨mine, rfl, rfl⟩
    · rw [if_neg mine] at h
      split_ifs at h with theirs
      · obtain rfl := mem_singleton.mp h
        exact .inr ⟨mine, theirs, rfl, rfl⟩
      · cases h

/-- An entry and another that carries one of its values: the row that holds the value is
that of the entry, or it is that of the other. -/
theorem of_contenderPairs {c : NSSEntryRef} (h : p ∈ contenderPairs settings s e stored now c) :
    p.otherID ≠ some p.holderID ∧
      ((stored.map (·.id) = some p.holderID ∧ p.otherDN = c.dn ∧
        p.otherID = (s.matchRow settings c).map (·.id)) ∨
      ((s.matchRow settings c).map (·.id) = some p.holderID ∧ p.otherDN = e.dn ∧
        p.otherID = stored.map (·.id))) := by
  unfold contenderPairs at h
  by_cases one : (s.matchRow settings c).isSome = true ∧
      (s.matchRow settings c).map (·.id) = stored.map (·.id)
  · rw [if_pos one] at h
    cases h
  · rw [if_neg one, mem_append] at h
    have pair : ∃ kind holds value,
        p ∈ sharedPair s e c stored (s.matchRow settings c) now kind holds value := by
      rcases h with h | h
      all_goals split at h
      · exact ⟨_, _, _, h⟩
      · cases h
      · exact ⟨_, _, _, h⟩
      · cases h
    obtain ⟨kind, holds, value, pair⟩ := pair
    rcases of_sharedPair pair with ⟨mine, dn, other⟩ | ⟨apart, theirs, dn, other⟩
    · refine ⟨fun self => one ?_, .inl ⟨mine, dn, other⟩⟩
      rw [other] at self
      refine ⟨?_, self.trans mine.symm⟩
      rw [← Option.isSome_map, self]
      rfl
    · exact ⟨fun self => apart (other.symm.trans self), .inr ⟨theirs, dn, other⟩⟩

/-- Judging rows, and nothing else. -/
theorem recordSpec_of_recompute
    (h : (recomputeWithheld ids now : SheetTx t PUnit).run s = .ok (u, s')) :
    RecordSpec [] ids s s' :=
  recordSpec_of_delete (q := fun _ => false) rfl (by simp) (by simp) h

/-- Nothing is recorded. -/
theorem RecordSpec.refl (s : Sheet t) : RecordSpec [] [] s s :=
  ⟨.of_rows_eq rfl fun _ => ⟨rfl, fun _ => rfl, by simp, rfl⟩, fun _ after => .inl ⟨after, by simp⟩,
    fun _ before => .inr (.inr before), by simp, by simp⟩

end Recording

/-! ## A store -/

/-- A store of an entry: a write, then the collisions, then the rows a re-anchoring
released. -/
inductive StoreSpec (settings : Settings) (e : NSSEntryRef) (follow : PosixRow α → PosixRow α)
    (now : Int) (target : Option String) (born : PosixRow α) (contenders : List NSSEntryRef)
    (s : Sheet t) (out : Stored α) (s' : Sheet t) : Prop
  | mk {written : Written α} {m : Sheet t} {ids : List String}
      (write : WriteSpec e follow now target born s written m)
      (record : RecordSpec
        (observedPairs settings m e written.stored written.contended contenders now) ids m s')
      (released : ∀ k ∈ written.resolved.getD [], ∀ id, k.names id = true → id ∈ ids)
      (row : ∀ row, out.row = some row → ∃ row' ∈ s'.rows.rows, Same row row')

theorem of_reread {out : Option (PosixRow α)} {s' : Sheet t}
    (h : (reread stored : SheetTx t _).run s = .ok (out, s')) :
    s' = s ∧ ∀ row, out = some row → row ∈ s.rows.rows := by
  cases stored with
  | none =>
    obtain ⟨rfl, rfl⟩ := run_pure_eq_ok.mp h
    exact ⟨rfl, fun _ none => by cases none⟩
  | some =>
    obtain ⟨current, _, first, h⟩ := run_bind_eq_ok.mp h
    obtain ⟨rfl, rfl⟩ := run_pure_eq_ok.mp h
    obtain ⟨same, member, -⟩ := of_firstByID first
    refine ⟨same, ?_⟩
    rintro _ ⟨⟩
    exact member

theorem of_storeAccount {a : NSSAccount} {disabled : Bool} {contenders : List NSSAccount}
    {s s' : Sheet accountTable} {out : Stored AccountColumns}
    (h : (storeAccount settings a disabled contenders complete now newID).run s = .ok (out, s')) :
    StoreSpec settings a.ref (followAccount settings a disabled now) now (accountAnchor settings s a)
      (newAccount newID a disabled now) (contenders.map (·.ref)) s out s' := by
  obtain ⟨written, m, first, h₁⟩ := run_bind_eq_ok.mp h
  obtain ⟨observed, m', second, h₂⟩ := run_bind_eq_ok.mp h₁
  obtain ⟨row, m'', third, h₃⟩ := run_bind_eq_ok.mp h₂
  obtain ⟨rfl, rfl⟩ := run_pure_eq_ok.mp h₃
  obtain ⟨rfl, ids, record⟩ := of_recordCollisions second
  obtain ⟨rfl, member⟩ := of_reread third
  obtain ⟨write, unresolved⟩ := of_writeAccount first
  exact .mk write record (by simp [unresolved]) fun row stored => ⟨row, member row stored, rfl⟩

theorem of_storeGroupRow {contenders : List NSSGroup} {gone : Option (String → Bool)}
    {s : Sheet groupTable} {out : Stored Unit}
    (h : (storeGroupRow settings g contenders complete gone now newID).run s = .ok (out, s')) :
    StoreSpec settings g.ref (followGroup g now) now (groupAnchor settings s g contenders gone)
      (newGroup newID g now) (contenders.map (·.ref)) s out s' := by
  obtain ⟨written, m, first, h₁⟩ := run_bind_eq_ok.mp h
  obtain ⟨observed, m₁, second, h₂⟩ := run_bind_eq_ok.mp h₁
  obtain ⟨row, m₂, third, h₃⟩ := run_bind_eq_ok.mp h₂
  obtain ⟨_, m₃, fourth, h₄⟩ := run_bind_eq_ok.mp h₃
  obtain ⟨rfl, rfl⟩ := run_pure_eq_ok.mp h₄
  obtain ⟨rfl, ids, record⟩ := of_recordCollisions second
  obtain ⟨rfl, member⟩ := of_reread third
  have write := of_writeGroup first
  cases anchored : written.resolved with
  | none =>
    rw [anchored] at fourth
    obtain ⟨-, rfl⟩ := run_pure_eq_ok.mp fourth
    exact .mk write record (by simp [anchored]) fun row stored => ⟨row, member row stored, rfl⟩
  | some =>
    rw [anchored] at fourth
    have recompute := recordSpec_of_recompute fourth
    refine .mk write (record.recompute fourth) ?_ fun row stored => ?_
    · intro k member id names
      rw [anchored] at member
      exact mem_append_right _ (mem_named.mpr ⟨k, member, names⟩)
    · obtain ⟨row', after, -, judged⟩ := recompute.rows.persists row (member row stored)
      exact ⟨row', after, judged.same⟩

/-! ## What a store does to the rows -/

/-- What a store does to a row: what the write does, and bookkeeping. -/
def Stores (e : NSSEntryRef) (follow : PosixRow α → PosixRow α) (now : Int)
    (target : Option String) (row row' : PosixRow α) : Prop :=
  ∃ mid, Wrote e follow now target row mid ∧ Same mid row'

theorem StoreSpec.evolves {follow : PosixRow α → PosixRow α} {target : Option String}
    {born : PosixRow α} {s' : Sheet t} {out : Stored α}
    (h : StoreSpec settings e follow now target born contenders s out s') :
    Evolves (Stores e follow now target) (Same born) s s' := by
  obtain ⟨write, record, -, -⟩ := h
  refine write.evolves.comp record.rows (fun _ wrote judged => ⟨_, wrote, judged.same⟩) ?_
    fun no => no.elim
  rintro b c rfl judged
  exact judged.same

end Ssoossh.NSS
