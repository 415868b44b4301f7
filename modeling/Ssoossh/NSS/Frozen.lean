import Ssoossh.NSS.Transitions

/-!
# Frozen numbers

A uid or a gid that was once served to hosts owns files there, so what the directory
says later is only ever put aside as pending.  Whatever the calls, the entries and the
order of steps, a stored number changes in the step in which an administrator accepts
that row's pending number, and in no other; the primary gid of an account may also move
with the group it names.
-/

namespace Ssoossh.NSS

open Interleaving Relational Option

/-! ## Numbers -/

section Rows

variable {d : Directory} {statement : Statement}

/-- A uid changes when it is accepted. -/
theorem AccountChange.number {row row' : PosixUser} (h : AccountChange d statement row row') :
    row'.number = row.number ∨
      ∃ now, statement = .acceptUser row.number now ∧ row.pendingNumber = some row'.number := by
  cases h with
  | same changed | stored name anchor changed => exact .inl changed.number.symm
  | @accepted uid now _ _ number changed =>
    cases pending : row.pendingNumber with
    | none =>
      refine .inl (changed.number.symm.trans ?_)
      show row.pendingNumber.getD row.number = row.number
      rw [pending, getD_none]
    | some =>
      refine .inr ⟨now, by rw [number], ?_⟩
      rw [← changed.number]
      show _ = some (row.pendingNumber.getD row.number)
      rw [pending, getD_some]
  | rekeyed stored number pending changed =>
    refine .inl (changed.number.symm.trans ?_)
    exact rekeyedAccount_column PosixRow.number (fun _ _ => rfl) (fun _ _ => rfl) (fun _ => rfl) row
  | missing unseen present changed | tombstoned id live changed
  | linked here free changed
  | claimed id unmailed number gid changed => exact .inl changed.number.symm

/-- A gid changes when it is accepted. -/
theorem GroupChange.number {row row' : PosixGroup} (h : GroupChange d statement row row') :
    row'.number = row.number ∨
      ∃ now, statement = .acceptGroup row.number now ∧ row.pendingNumber = some row'.number := by
  cases h with
  | same changed | stored name anchor changed => exact .inl changed.number.symm
  | @accepted gid now _ _ number pending changed =>
    obtain ⟨newGID, pending⟩ := ne_none_iff_exists'.mp pending
    refine .inr ⟨now, by rw [number], ?_⟩
    rw [← changed.number]
    show _ = some (row.pendingNumber.getD row.number)
    rw [pending, getD_some]
  | missing unseen present changed | tombstoned id live changed
  | claimed id unmailed number changed => exact .inl changed.number.symm

/-! ## Primary gids -/

/-- A stored gid is kept by a read, unless every account has a group of its own. -/
theorem accountGIDUpdate_of_some {settings : Settings} {row : PosixUser} {a : NSSAccount} {gid : Nat}
    (mode : settings.autoPrivateGroups ≠ .on) (stored : row.own.gid = some gid) :
    (accountGIDUpdate settings row a).1 = some gid := by
  unfold accountGIDUpdate
  rw [if_neg mode, stored]
  cases a.gid with
  | none | some => rfl

theorem rekeyedAccount_gid {oldGID newGID : Nat} {now : Int} (row : PosixUser) :
    (rekeyedAccount oldGID newGID now row).own.gid =
      if row.own.gid = some oldGID then some newGID else row.own.gid := by
  rw [rekeyedAccount, clearedAccount_own, settledAccount_gid]
  unfold movedAccount Rel.rewrite
  by_cases here : row.own.gid = some oldGID
  · simp [here]
  · simp [here]

/-- A stored primary gid changes when it is accepted, or with the group it names. -/
theorem AccountChange.gid {row row' : PosixUser} {gid : Nat} (h : AccountChange d statement row row')
    (mode : ∀ settings a disabled contenders complete now,
      statement = .storeAccount settings a disabled contenders complete now →
        settings.autoPrivateGroups ≠ .on)
    (named : row.own.gid = some gid) :
    row'.own.gid = some gid ∨
      (∃ now, statement = .acceptUser row.number now ∧ row.own.pendingGID ≠ none ∧
        row'.own.gid = row.own.pendingGID) ∨
      ∃ now, statement = .acceptGroup gid now ∧ ∃ group ∈ d.groups.rows.rows,
        group.number = gid ∧ row'.own.gid = group.pendingNumber := by
  cases h with
  | same changed => exact .inl (changed.own ▸ named)
  | @stored settings a disabled contenders complete now _ _ name anchor changed =>
    refine .inl ?_
    rw [← changed.own]
    exact accountGIDUpdate_of_some (mode _ _ _ _ _ _ rfl) named
  | @accepted uid now _ _ number changed =>
    have after : row'.own.gid = row.own.pendingGID.or row.own.gid :=
      (congrArg AccountColumns.gid changed.own).symm
    cases pending : row.own.pendingGID with
    | none =>
      rw [pending, none_or] at after
      exact .inl (after.trans named)
    | some =>
      rw [pending, some_or] at after
      exact .inr (.inl ⟨now, by rw [number], by simp, after⟩)
  | @rekeyed old newGID now _ _ group stored number pending changed =>
    have after := (congrArg AccountColumns.gid changed.own).symm.trans (rekeyedAccount_gid row)
    split_ifs at after with moved
    · obtain rfl : old = gid := Option.some.inj (moved.symm.trans named)
      exact .inr (.inr ⟨now, rfl, group, stored, number, after.trans pending.symm⟩)
    · exact .inl (after.trans named)
  | missing unseen present changed | tombstoned id live changed => exact .inl (changed.own ▸ named)
  | linked here free changed => exact .inl ((congrArg AccountColumns.gid changed.own).symm.trans named)
  | claimed id unmailed number gid changed => exact .inl (changed.own ▸ named)

end Rows

/-! ## Steps -/

/-- **Numbers are frozen.**  In every step of every run:
* the uid of an account changes only if its pending uid is accepted, to that uid;
* the gid of a group changes only if its pending gid is accepted, to that gid;
* unless an account is stored under `auto_private_groups` `"true"`, the primary gid an
  account has changes only if its pending gid is accepted, to that gid, or if the gid
  of the group it names is, to that group's new gid. -/
theorem numbers_frozen {cfg next : ServiceConfig} {label : ServiceLabel}
    (stepped : service.step cfg label = some next) :
    (∀ row ∈ cfg.shared.directory.accounts.rows.rows,
      ∀ row' ∈ next.shared.directory.accounts.rows.rows, row'.id = row.id →
        row'.number ≠ row.number → ∃ now, Commits cfg label (.acceptUser row.number now) ∧
          row.pendingNumber = some row'.number) ∧
    (∀ row ∈ cfg.shared.directory.groups.rows.rows,
      ∀ row' ∈ next.shared.directory.groups.rows.rows, row'.id = row.id →
        row'.number ≠ row.number → ∃ now, Commits cfg label (.acceptGroup row.number now) ∧
          row.pendingNumber = some row'.number) ∧
    ((∀ settings a disabled contenders complete now,
        Commits cfg label (.storeAccount settings a disabled contenders complete now) →
          settings.autoPrivateGroups ≠ .on) →
      ∀ row ∈ cfg.shared.directory.accounts.rows.rows,
        ∀ row' ∈ next.shared.directory.accounts.rows.rows, row'.id = row.id →
          ∀ gid, row.own.gid = some gid → row'.own.gid ≠ some gid →
            (∃ now, Commits cfg label (.acceptUser row.number now) ∧ row.own.pendingGID ≠ none ∧
              row'.own.gid = row.own.pendingGID) ∨
            ∃ now, Commits cfg label (.acceptGroup gid now) ∧
              ∃ group ∈ cfg.shared.directory.groups.rows.rows,
                ∃ group' ∈ next.shared.directory.groups.rows.rows, group'.id = group.id ∧
                  group.number = gid ∧ row'.own.gid = some group'.number) := by
  rcases directory_of_step stepped with same | ⟨statement, newID, result, commits, committed⟩
  · -- a step that commits nothing changes no row
    rw [same]
    refine ⟨fun row before row' after id changed => ?_, fun row before row' after id changed => ?_,
      fun _ row before row' after id gid named changed => ?_⟩
    · exact (changed (by rw [Sheet.eq_of_id after before id])).elim
    · exact (changed (by rw [Sheet.eq_of_id after before id])).elim
    · exact (changed (by rw [Sheet.eq_of_id after before id, named])).elim
  · refine ⟨fun row before row' after id changed => ?_, fun row before row' after id changed => ?_,
      fun mode row before row' after id gid named changed => ?_⟩
    · rcases ((accounts_turn committed).row before after id).number with same | ⟨now, rfl, pending⟩
      · exact (changed same).elim
      · exact ⟨now, commits, pending⟩
    · rcases ((groups_turn committed).row before after id).number with same | ⟨now, rfl, pending⟩
      · exact (changed same).elim
      · exact ⟨now, commits, pending⟩
    · have modes : ∀ settings a disabled contenders complete now,
          statement = .storeAccount settings a disabled contenders complete now →
            settings.autoPrivateGroups ≠ .on := by
        rintro settings a disabled contenders complete now rfl
        exact mode _ _ _ _ _ _ commits
      rcases ((accounts_turn committed).row before after id).gid modes named with
        same | ⟨now, rfl, pending, moved⟩ | ⟨now, rfl, group, stored, number, moved⟩
      · exact (changed same).elim
      · exact .inl ⟨now, commits, pending, moved⟩
      · obtain ⟨group₁, stored₁, number₁, group', there, id', pending⟩ := accepted_group committed
        obtain rfl := Sheet.eq_of_number stored stored₁ (number.trans number₁.symm)
        exact .inr ⟨now, commits, group, stored, group', there, id', number, moved.trans pending⟩

namespace Sample

/-- An account is stored, and then the directory gives it another uid. -/
def renumbering : List ServiceLabel :=
  refreshing 0 (account "ann" "1" "ann" 1000) "row" 1 ++
  refreshing 1 (account "ann" "1" "ann" 2000) "" 2 ++
  uninterrupted 2 (.acceptUserIDChange 1000) [.time 3]

/-- The accounts before and after a last step. -/
def lastStep (labels : List ServiceLabel) (label : ServiceLabel) :
    Option (List PosixUser × List PosixUser) := do
  let cfg ← after labels
  let next ← service.step cfg label
  pure (cfg.shared.directory.accounts.rows.rows, next.shared.directory.accounts.rows.rows)

end Sample

/-- The new uid is taken in the step that accepts it. -/
theorem numbers_frozen_renumbering : ∃ cfg next row row' now,
    service.step cfg (.run 2 (.done "")) = some next ∧
      row ∈ cfg.shared.directory.accounts.rows.rows ∧
      row' ∈ next.shared.directory.accounts.rows.rows ∧ row.number = 1000 ∧ row'.number = 2000 ∧
      Commits cfg (.run 2 (.done "")) (.acceptUser 1000 now) := by
  have ran : (Sample.lastStep Sample.renumbering (.run 2 (.done ""))).map (fun rows =>
      (rows.1.map fun row => (row.id, row.number), rows.2.map fun row => (row.id, row.number))) =
      some ([("row", 1000)], [("row", 2000)]) := by decide +kernel
  obtain ⟨rows, found, data⟩ := map_eq_some_iff.mp ran
  simp only [Sample.lastStep, bind_eq_bind, bind_eq_some_iff, pure_def,
    Option.some.injEq] at found
  obtain ⟨cfg, -, next, stepped, rfl⟩ := found
  dsimp only at data
  obtain ⟨row, before, here⟩ := List.map_eq_singleton_iff.mp (Prod.mk.inj data).1
  obtain ⟨row', after, there⟩ := List.map_eq_singleton_iff.mp (Prod.mk.inj data).2
  obtain ⟨id, number⟩ := Prod.mk.inj here
  obtain ⟨id', number'⟩ := Prod.mk.inj there
  have stored : row ∈ cfg.shared.directory.accounts.rows.rows := before ▸ List.mem_singleton_self row
  have stored' : row' ∈ next.shared.directory.accounts.rows.rows :=
    after ▸ List.mem_singleton_self row'
  obtain ⟨now, commits, -⟩ := (numbers_frozen stepped).1 row stored row' stored'
    (id'.trans id.symm) (by rw [number, number']; decide)
  exact ⟨cfg, next, row, row', now, stepped, stored, stored', number, number', number ▸ commits⟩

end Ssoossh.NSS
