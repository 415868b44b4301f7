import Mathlib.Data.List.Induction
import Mathlib.Data.Set.Function
import Ssoossh.NSS.Keys

/-!
# The life of a fleet key

What a fleet key is for, told from its history alone: the secrets issued for it, whether
the one before the latest was cleared, and whether the key was revoked.  The verifier
sees none of this.  It sees two hashes and two times, and `fleet_key_lifecycle` says that
after any sequence of operations they are enough.

## Main definitions

* `KeyEvent`, `issued`, `previous`: the history of a key, and what is accepted by it.
* `World`, `World.step`, `run`: the operations, with the history of every key beside its row.
* `Tracks`: the row agrees with the history.
-/

namespace Ssoossh.NSS

open Relational GoTime Fallible List Option Function

/-! ## Histories -/

/-- What happened to a key.  A rotation is at a time, and the key may have expired before
it. -/
inductive KeyEvent
  | created (secret : String)
  | rotated (secret : String) (now : Int) (expired : Bool)
  | cleared
  | revoked
deriving DecidableEq

namespace KeyEvent

/-- The secret an event issues. -/
def secret? : KeyEvent → Option String
  | .created secret => some secret
  | .rotated secret _ _ => some secret
  | .cleared => none
  | .revoked => none

/-- The secrets that were issued, the latest first. -/
def issued (log : List KeyEvent) : List String := log.filterMap secret?

/-- The secret issued just before the latest, and when its grace ends.  There is none
before the first rotation or after the secret was cleared, and a key that had expired
gives its old secret no grace. -/
def previous (grace : Int) : List KeyEvent → Option (String × Int)
  | [] => none
  | .created _ :: _ => none
  | .rotated _ now expired :: log =>
    (issued log).head?.map fun old => (old, if expired then now else Time.add now grace)
  | .cleared :: _ => none
  | .revoked :: log => previous grace log

/-- The secret is the latest, or the one before it in its grace. -/
def Accepts (grace : Int) (log : List KeyEvent) (now : Int) (secret : String) : Prop :=
  (issued log).head? = some secret ∨
    ∃ ends, previous grace log = some (secret, ends) ∧ Time.after ends now = true

/-- The secret was issued as a generation: the first one is generation 1. -/
def IssuedAs (log : List KeyEvent) (secret : String) (generation : Nat) : Prop :=
  ∃ i, (issued log).reverse[i]? = some secret ∧ generation = i + 1

variable {grace : Int} {log : List KeyEvent} {secret old : String} {ends : Int}

/-- The previous secret is the second of those issued. -/
theorem issued_of_previous (h : previous grace log = some (old, ends)) :
    ∃ latest older, issued log = latest :: old :: older := by
  induction log with
  | nil => cases h
  | cons event log ih =>
    cases event with
    | created => cases h
    | rotated secret =>
      obtain ⟨first, head, same⟩ := map_eq_some_iff.mp h
      obtain ⟨rfl, -⟩ := Prod.mk.inj same
      obtain ⟨older, shape⟩ := head?_eq_some_iff.mp head
      exact ⟨secret, older, by rw [← shape]; rfl⟩
    | cleared => cases h
    | revoked => exact ih h

/-- The latest secret has the number of secrets as its generation. -/
theorem issuedAs_latest {older : List String} (shape : issued log = secret :: older) :
    IssuedAs log secret (issued log).length := by
  refine ⟨older.length, ?_, by rw [shape]; rfl⟩
  rw [shape, reverse_cons, getElem?_append_right (by simp)]
  simp

/-- ... and the one before it has one less. -/
theorem issuedAs_previous {latest : String} {older : List String}
    (shape : issued log = latest :: old :: older) :
    IssuedAs log old ((issued log).length - 1) := by
  refine ⟨older.length, ?_, by rw [shape]; rfl⟩
  rw [shape, reverse_cons, reverse_cons, getElem?_append_left (by simp),
    getElem?_append_right (by simp)]
  simp

/-- Distinct secrets were issued as one generation each. -/
theorem IssuedAs.unique (distinct : (issued log).Nodup) {m n : Nat}
    (first : IssuedAs log secret m) (second : IssuedAs log secret n) : m = n := by
  obtain ⟨i, atI, rfl⟩ := first
  obtain ⟨j, atJ, rfl⟩ := second
  have inside : i < (issued log).reverse.length := by
    by_contra outside
    rw [getElem?_eq_none (by omega)] at atI
    cases atI
  rw [(getElem?_inj inside (nodup_reverse.mpr distinct)).mp (atI.trans atJ.symm)]

end KeyEvent

open KeyEvent

/-! ## Operations -/

/-- An operation on the fleet keys, with the random part of a new secret and the ids that
are drawn. -/
inductive KeyOp
  | create (caller : Caller) (input : NSSKeyService.NSSKeyCreate) (token : String)
      (ids : List String)
  | update (caller : Caller) (id : String) (input : NSSKeyService.NSSKeyUpdate)
  | rotate (caller : Caller) (id token : String)
  | clearPrevious (caller : Caller) (id : String)
  | revoke (caller : Caller) (id : String)

/-- The secret an operation draws. -/
def KeyOp.secret? : KeyOp → Option String
  | .create _ _ token _ => some (newNSSKeySecret token)
  | .rotate _ _ token => some (newNSSKeySecret token)
  | .update _ _ _ => none
  | .clearPrevious _ _ => none
  | .revoke _ _ => none

/-- The table, and beside it the history of every key. -/
structure World where
  keys : NSSKeys
  log : String → List KeyEvent

namespace World

/-- No key yet. -/
def initial : World := ⟨Table.empty, fun _ => []⟩

/-- A new table, and one more event in the history of a key. -/
def note (world : World) (keys : NSSKeys) (id : String) (event : KeyEvent) : World :=
  ⟨keys, Function.update world.log id (event :: world.log id)⟩

/-- An operation at a time.  One that fails changes nothing. -/
def step (s : NSSKeyService) (world : World) (now : Int) : KeyOp → World
  | .create caller input token ids =>
    match s.create world.keys now caller input token ids with
    | .ok (keys, key) => world.note keys key.id (.created (newNSSKeySecret token))
    | .error _ => world
  | .update caller id input =>
    match s.update world.keys now caller id input with
    | .ok keys => ⟨keys, world.log⟩
    | .error _ => world
  | .rotate caller id token =>
    match s.rotate world.keys now caller id token with
    | .ok keys => world.note keys id (.rotated (newNSSKeySecret token) now
      ((world.keys.find? id).any fun key => decide (nssKeyStatus key now = .expired)))
    | .error _ => world
  | .clearPrevious caller id =>
    match s.clearPrevious world.keys now caller id with
    | .ok keys => world.note keys id .cleared
    | .error _ => world
  | .revoke caller id =>
    match s.revoke world.keys now caller id with
    | .ok keys => world.note keys id .revoked
    | .error _ => world

end World

/-- Operations one after another. -/
def run (s : NSSKeyService) (ops : List (Int × KeyOp)) : World :=
  ops.foldl (fun world op => world.step s op.1 op.2) World.initial

theorem run_concat (s : NSSKeyService) (ops : List (Int × KeyOp)) (op : Int × KeyOp) :
    run s (ops ++ [op]) = (run s ops).step s op.1 op.2 := by
  rw [run, foldl_append]
  rfl

/-! ## What an operation does -/

namespace NSSKeyService

variable {s : NSSKeyService} {keys next : NSSKeys} {now : Int} {caller : Caller} {id token : String}

/-- Reading after a row was written back. -/
theorem find?_store (keys : NSSKeys) (id : String) (f : NSSKey → NSSKey)
    (keepID : ∀ key, (f key).id = key.id) (other : String) :
    (store keys id f keepID).find? other =
      if other = id then (keys.find? id).map f else keys.find? other := by
  rw [store, Table.find?_update]
  by_cases same : other = id
  · subst same
    rw [if_pos rfl]
    refine map_congr fun key found => ?_
    rw [if_pos (decide_eq_true (Table.find?_key found))]
  · rw [if_neg same]
    refine (map_congr fun key found => ?_).trans map_id'
    rw [if_neg]
    rw [decide_eq_true_eq, Table.find?_key found]
    exact same

/-- `mutate` hands out the stored key. -/
theorem find?_of_mutate {permissions : List NSSKeyPermission} {key : NSSKey} {user : KeyUser}
    (h : s.mutate keys caller id permissions = .ok (key, user)) : keys.find? id = some key := by
  simp only [mutate, throw_bind, bind_eq_ok, ite_throw_eq_ok, pure_eq_ok, Prod.mk.injEq] at h
  obtain ⟨stored, loaded, -, -, -, -, -, -, rfl, -⟩ := h
  unfold load at loaded
  split at loaded
  · cases loaded
  · rename_i found
    cases loaded
    exact found

/-- The key is inserted under one of the ids drawn, otherwise as it is. -/
theorem insert_of_insertWithFreshID {key row : NSSKey} {ids : List String}
    (h : insertWithFreshID keys key ids = .ok (next, row)) :
    keys.insert row = some next ∧ row = { key with id := row.id } := by
  induction ids with
  | nil => cases h
  | cons drawn ids ih =>
    unfold insertWithFreshID at h
    split at h
    · rename_i inserted
      obtain ⟨rfl, rfl⟩ := Prod.mk.inj (Except.ok.inj h)
      exact ⟨inserted, rfl⟩
    · exact ih h

/-- A new key is generation 1 of its secret, and has no previous one. -/
theorem create_eq_ok {input : NSSKeyCreate} {ids : List String} {row : NSSKey}
    (h : s.create keys now caller input token ids = .ok (next, row)) :
    keys.insert row = some next ∧ row.secretHash = s.hashNSSSecret (newNSSKeySecret token) ∧
      row.currentGeneration = 1 ∧ row.previousSecretHash = none ∧ row.previousExpiresAt = none ∧
      row.revokedAt = none := by
  simp only [create, throw_bind, bind_eq_ok, ite_throw_eq_ok] at h
  obtain ⟨-, user, -, name, -, description, -, group, -, expires, -, email, -, made⟩ := h
  obtain ⟨inserted, shape⟩ := insert_of_insertWithFreshID made
  rw [shape] at inserted
  rw [shape]
  exact ⟨inserted, rfl, rfl, rfl, rfl, rfl⟩

end NSSKeyService

/-! ## The row agrees with the history -/

/-- **The row of a key agrees with its history.** -/
structure Tracks (s : NSSKeyService) (key : NSSKey) (log : List KeyEvent) : Prop where
  current : (issued log).head?.map s.hashNSSSecret = some key.secretHash
  generation : key.currentGeneration = (issued log).length
  previousHash : key.previousSecretHash =
    (previous s.keyRotationGrace log).map fun old => s.hashNSSSecret old.1
  previousEnd : key.previousExpiresAt = (previous s.keyRotationGrace log).map Prod.snd
  revoked : key.revokedAt.isSome = true ↔ KeyEvent.revoked ∈ log

namespace Tracks

variable {s : NSSKeyService} {key : NSSKey} {log : List KeyEvent} {now : Int}

/-- A rotation makes the current secret the previous one. -/
theorem rotate (tracks : Tracks s key log) (token : String) :
    Tracks s (s.rotated now token key) (.rotated (newNSSKeySecret token) now
      (decide (nssKeyStatus key now = .expired)) :: log) where
  current := rfl
  generation := by
    show key.currentGeneration + 1 = _
    rw [tracks.generation]
    rfl
  previousHash := by
    obtain ⟨latest, head, hashed⟩ := map_eq_some_iff.mp tracks.current
    simp [NSSKeyService.rotated, previous, head, hashed]
  previousEnd := by
    obtain ⟨latest, head, -⟩ := map_eq_some_iff.mp tracks.current
    simp [NSSKeyService.rotated, previous, head]
  revoked := by
    refine tracks.revoked.trans ?_
    simp

/-- Clearing ends the previous secret. -/
theorem clear (tracks : Tracks s key log) :
    Tracks s { key with previousSecretHash := none, previousExpiresAt := none, updatedAt := now }
      (.cleared :: log) where
  current := tracks.current
  generation := tracks.generation
  previousHash := rfl
  previousEnd := rfl
  revoked := by
    refine tracks.revoked.trans ?_
    simp

/-- A revocation is all it records. -/
theorem revoke (tracks : Tracks s key log) (user : String) :
    Tracks s { key with revokedAt := some now, revokedBy := some user, updatedAt := now }
      (.revoked :: log) where
  current := tracks.current
  generation := tracks.generation
  previousHash := tracks.previousHash
  previousEnd := tracks.previousEnd
  revoked := by simp

end Tracks

/-- Every row agrees with the history beside it, and an unknown id has none. -/
structure World.Tracked (s : NSSKeyService) (world : World) : Prop where
  absent : ∀ id, world.keys.find? id = none → world.log id = []
  present : ∀ id key, world.keys.find? id = some key → Tracks s key (world.log id)

namespace World

variable {s : NSSKeyService} {world : World} {now : Int} {op : KeyOp}

/-- What an operation that succeeds can do: add a key, or write one back with at most one
event more. -/
inductive Stepped (s : NSSKeyService) (world : World) : Option String → World → Prop
  | failed (secret : Option String) : Stepped s world secret world
  | created (keys : NSSKeys) (row : NSSKey) (secret : String)
      (inserted : world.keys.insert row = some keys)
      (tracks : Tracks s row [.created secret]) :
      Stepped s world (some secret) (world.note keys row.id (.created secret))
  | changed (secret : Option String) (id : String) (key : NSSKey) (f : NSSKey → NSSKey)
      (keepID : ∀ key, (f key).id = key.id) (log : List KeyEvent)
      (found : world.keys.find? id = some key)
      (issues : issued log = secret.toList ++ issued (world.log id))
      (older : world.log id <:+ log)
      (tracks : Tracks s key (world.log id) → Tracks s (f key) log) :
      Stepped s world secret
        ⟨NSSKeyService.store world.keys id f keepID, Function.update world.log id log⟩

/-- One case for each operation. -/
theorem stepped (s : NSSKeyService) (world : World) (now : Int) (op : KeyOp) :
    Stepped s world op.secret? (world.step s now op) := by
  cases op with
  | create =>
    simp only [step]
    split
    · rename_i keys row made
      obtain ⟨inserted, hashed, first, noPrevious, noEnd, unrevoked⟩ :=
        NSSKeyService.create_eq_ok made
      refine .created keys row _ inserted ⟨?_, first, noPrevious, noEnd, ?_⟩
      · rw [hashed]
        rfl
      · simp [unrevoked]
    · exact .failed _
  | update caller id =>
    simp only [step]
    split
    · rename_i keys made
      simp only [NSSKeyService.update, throw_bind, bind_eq_ok, ite_throw_eq_ok, pure_eq_ok] at made
      obtain ⟨-, ⟨key, user⟩, loaded, ⟨changed, any⟩, -, rfl⟩ := made
      cases any with
      | true =>
        have written : Stepped s world _ _ := .changed none id key
          (fun old => { old with
            description := changed.description
            notificationEmail := changed.notificationEmail
            groupName := changed.groupName
            updatedAt := now })
          (fun _ => rfl) (world.log id) (NSSKeyService.find?_of_mutate loaded) rfl
          (suffix_refl _) fun tracks => { tracks with }
        rwa [update_eq_self] at written
      | false => exact .failed _
    · exact .failed _
  | rotate caller id token =>
    simp only [step]
    split
    · rename_i keys made
      simp only [NSSKeyService.rotate, bind_eq_ok, pure_eq_ok] at made
      obtain ⟨⟨key, user⟩, loaded, rfl⟩ := made
      have found := NSSKeyService.find?_of_mutate loaded
      refine .changed _ id key _ _ _ found rfl (suffix_cons ..) fun tracks => ?_
      rw [found]
      exact tracks.rotate token
    · exact .failed _
  | clearPrevious caller id =>
    simp only [step]
    split
    · rename_i keys made
      simp only [NSSKeyService.clearPrevious, throw_bind, bind_eq_ok, ite_throw_eq_ok,
        pure_eq_ok] at made
      obtain ⟨⟨key, user⟩, loaded, -, rfl⟩ := made
      exact .changed _ id key _ _ _ (NSSKeyService.find?_of_mutate loaded) rfl
        (suffix_cons ..) Tracks.clear
    · exact .failed _
  | revoke caller id =>
    simp only [step]
    split
    · rename_i keys made
      simp only [NSSKeyService.revoke, bind_eq_ok, pure_eq_ok] at made
      obtain ⟨⟨key, user⟩, loaded, rfl⟩ := made
      exact .changed _ id key _ _ _ (NSSKeyService.find?_of_mutate loaded) rfl
        (suffix_cons ..) fun tracks => tracks.revoke user.id
    · exact .failed _

variable {secret : Option String}

/-- One row is written, and its history. -/
theorem Tracked.put (tracked : world.Tracked s) {keys : NSSKeys} (row : NSSKey) {id : String}
    {log : List KeyEvent}
    (read : ∀ other, keys.find? other = if other = id then some row else world.keys.find? other)
    (tracks : Tracks s row log) : Tracked s ⟨keys, Function.update world.log id log⟩ := by
  refine ⟨fun other none => ?_, fun other key found => ?_⟩
  · rw [read] at none
    split_ifs at none with same
    exact (update_of_ne same ..).trans (tracked.absent other none)
  · rw [read] at found
    show Tracks s key (Function.update world.log id log other)
    split_ifs at found with same
    · obtain rfl := some.inj found
      rw [same, update_self]
      exact tracks
    · rw [update_of_ne same]
      exact tracked.present other key found

/-- An operation keeps every row in step with its history. -/
theorem Stepped.tracked {next : World} (stepped : Stepped s world secret next)
    (tracked : world.Tracked s) : next.Tracked s := by
  cases stepped with
  | failed => exact tracked
  | created keys row secret inserted tracks =>
    have fresh : world.log row.id = [] := tracked.absent row.id (Table.find?_of_insert inserted)
    refine tracked.put row (fun other => ?_) (fresh ▸ tracks)
    rw [Table.find?_insert inserted]
    simp only [eq_comm]
  | changed secret id key f keepID log found issues older tracks =>
    refine tracked.put (f key) (fun other => ?_) (tracks (tracked.present id key found))
    rw [NSSKeyService.find?_store, found, map_some]

/-- A history with at most one event more, which issues at most one secret. -/
def Extends (secret : Option String) (log next : List KeyEvent) : Prop :=
  log <:+ next ∧ (issued next = issued log ∨ issued next = secret.toList ++ issued log)

theorem extends_update {id : String} {log : List KeyEvent}
    (here : Extends secret (world.log id) log) (other : String) :
    Extends secret (world.log other) (Function.update world.log id log other) := by
  by_cases same : other = id
  · subst same
    rw [update_self]
    exact here
  · rw [update_of_ne same]
    exact ⟨suffix_refl _, .inl rfl⟩

/-- Events are only added, and the secrets they issue are those the operation drew. -/
theorem Stepped.log {next : World} (stepped : Stepped s world secret next) (id : String) :
    Extends secret (world.log id) (next.log id) := by
  cases stepped with
  | failed => exact ⟨suffix_refl _, .inl rfl⟩
  | created =>
    exact extends_update ⟨suffix_cons .., .inr rfl⟩ id
  | changed secret changedID key f keepID log found issues older =>
    exact extends_update ⟨older, .inr issues⟩ id

end World

/-! ## Runs -/

section Run

variable (s : NSSKeyService) (ops : List (Int × KeyOp))

/-- The secrets drawn by operations. -/
def secrets (ops : List (Int × KeyOp)) : List String := ops.filterMap fun op => op.2.secret?

/-- After any operations every row agrees with its history. -/
theorem run_tracked : (run s ops).Tracked s := by
  induction ops using reverseRecOn with
  | nil => exact ⟨fun _ _ => rfl, fun _ _ found => by cases found⟩
  | append_singleton ops op ih =>
    rw [run_concat]
    exact (World.stepped s _ op.1 op.2).tracked ih

/-- What was issued for a key was drawn, in that order. -/
theorem issued_sublist_secrets (id : String) :
    (issued ((run s ops).log id)).reverse.Sublist (secrets ops) := by
  induction ops using reverseRecOn with
  | nil => exact nil_sublist _
  | append_singleton ops op ih =>
    have drawn : secrets (ops ++ [op]) = secrets ops ++ op.2.secret?.toList := by
      rw [secrets, filterMap_append]
      cases secret : op.2.secret? <;> simp [secrets, secret]
    rw [run_concat, drawn]
    rcases ((World.stepped s (run s ops) op.1 op.2).log id).2 with same | more
    · rw [same]
      exact ih.trans (sublist_append_left ..)
    · rw [more, reverse_append]
      refine List.Sublist.append ih ?_
      cases op.2.secret? <;> exact List.Sublist.refl _

/-- A history only grows. -/
theorem log_suffix_append (later : List (Int × KeyOp)) (id : String) :
    (run s ops).log id <:+ (run s (ops ++ later)).log id := by
  induction later using reverseRecOn with
  | nil => simp
  | append_singleton later op ih =>
    rw [← append_assoc, run_concat]
    exact ih.trans ((World.stepped s _ op.1 op.2).log id).1

end Run

/-- A secret that was drawn is not the seed, which has no `s` in it. -/
theorem ne_seed_of_mem_secrets {s : NSSKeyService} {ops : List (Int × KeyOp)} {secret : String}
    (drawn : secret ∈ secrets ops) : secret ≠ s.seed := by
  rintro rfl
  obtain ⟨op, -, made⟩ := mem_filterMap.mp drawn
  have shape : ∃ token, s.seed = newNSSKeySecret token := by
    cases kind : op.2 with
    | create caller input token => exact ⟨token, by rw [kind] at made; exact (some.inj made).symm⟩
    | rotate caller id token => exact ⟨token, by rw [kind] at made; exact (some.inj made).symm⟩
    | update caller id input | clearPrevious caller id
    | revoke => rw [kind] at made; cases made
  obtain ⟨token, shape⟩ := shape
  have first : 's' ∈ s.seed.toList := by
    rw [shape, newNSSKeySecret, String.toList_append]
    exact mem_append_left _ (by decide)
  exact absurd (s.seed_hex 's' first) (by decide)

/-! ## Verifying -/

/-- The expiry of a key has been reached. -/
def NSSKey.Expired (key : NSSKey) (now : Int) : Prop :=
  ∃ expires, key.expiresAt = some expires ∧ Time.after expires now = false

theorem nssKeyStatus_active {key : NSSKey} {now : Int} :
    nssKeyStatus key now = .active ↔ key.revokedAt.isSome = false ∧ ¬ key.Expired now := by
  unfold nssKeyStatus NSSKey.Expired
  by_cases revoked : key.revokedAt.isSome = true
  · simp [revoked]
  · cases key.expiresAt <;> simp [revoked]

namespace NSSKeyService

variable {s : NSSKeyService} {keys : NSSKeys} {now : Int} {id secret : String} {key : NSSKey}

/-- Only a stored key that is neither revoked nor expired is accepted. -/
theorem active_of_ok (ok : (s.verifyFleetKey keys now id secret).ok = true) :
    ∃ key, keys.find? id = some key ∧ nssKeyStatus key now = .active := by
  unfold verifyFleetKey at ok
  cases found : keys.find? id with
  | none =>
    rw [found] at ok
    cases ok
  | some key =>
    refine ⟨key, rfl, ?_⟩
    cases status : nssKeyStatus key now with
    | active => rfl
    | revoked | expired =>
      simp only [found, status] at ok
      cases ok

/-- The verdict on a live key compares the two hashes. -/
theorem verify_of_active (found : keys.find? id = some key) (active : nssKeyStatus key now = .active) :
    s.verifyFleetKey keys now id secret =
      if s.hashNSSSecret secret = key.secretHash then
        { keyID := id, ok := true, generation := key.currentGeneration, key := some key }
      else if s.hashNSSSecret secret = (s.liveHashes key now).2 ∧
          (s.liveHashes key now).2 ≠ s.dummyHash then
        { keyID := id, ok := true, generation := key.currentGeneration - 1, key := some key }
      else { keyID := id, key := some key } := by
  have first : (s.liveHashes key now).1 = key.secretHash := rfl
  simp only [verifyFleetKey, found, active, first, beq_iff_eq, Bool.and_eq_true, bne_iff_ne]

end NSSKeyService

section Verify

variable {s : NSSKeyService} {keys : NSSKeys} {now : Int} {id secret : String} {key : NSSKey}
  {log : List KeyEvent}

/-- The second hash of a live key is that of the previous secret in its grace. -/
theorem Tracks.liveHashes (tracks : Tracks s key log) :
    (s.liveHashes key now).2 = match previous s.keyRotationGrace log with
      | some (old, ends) => if Time.after ends now then s.hashNSSSecret old else s.dummyHash
      | none => s.dummyHash := by
  unfold NSSKeyService.liveHashes
  rw [tracks.previousHash, tracks.previousEnd]
  cases previous s.keyRotationGrace log <;> rfl

/-- The hash separates the issued secrets from the presented one and from the seed. -/
structure Separates (s : NSSKeyService) (log : List KeyEvent) (secret : String) : Prop where
  presented : ∀ x ∈ issued log, s.hashNSSSecret secret = s.hashNSSSecret x → secret = x
  seed : ∀ x ∈ issued log, s.hashNSSSecret x ≠ s.dummyHash

section

variable (tracks : Tracks s key log) (separates : Separates s log secret)
include tracks separates

/-- The current hash is matched by the latest secret only. -/
theorem Tracks.matches_current :
    s.hashNSSSecret secret = key.secretHash ↔ (issued log).head? = some secret := by
  obtain ⟨latest, head, hashed⟩ := map_eq_some_iff.mp tracks.current
  rw [← hashed, head]
  constructor
  · intro same
    rw [separates.presented latest (mem_of_head? head) same]
  · intro same
    rw [some.inj same]

/-- The previous hash is matched by the previous secret only, while its grace lasts. -/
theorem Tracks.matches_previous :
    (s.hashNSSSecret secret = (s.liveHashes key now).2 ∧ (s.liveHashes key now).2 ≠ s.dummyHash) ↔
      ∃ ends, previous s.keyRotationGrace log = some (secret, ends) ∧ Time.after ends now = true := by
  rw [tracks.liveHashes]
  cases before : previous s.keyRotationGrace log with
  | none => simp
  | some pair =>
    obtain ⟨old, ends⟩ := pair
    obtain ⟨latest, older, shape⟩ := issued_of_previous before
    have member : old ∈ issued log := by simp [shape]
    by_cases lasts : Time.after ends now = true
    · simp only [lasts, if_true]
      constructor
      · rintro ⟨same, -⟩
        rw [separates.presented old member same]
        exact ⟨ends, rfl, lasts⟩
      · rintro ⟨_, same, -⟩
        obtain ⟨rfl, -⟩ := Prod.mk.inj (some.inj same)
        exact ⟨rfl, separates.seed old member⟩
    · simp only [lasts]
      constructor
      · exact fun refused => absurd rfl refused.2
      · rintro ⟨_, same, still⟩
        obtain ⟨-, rfl⟩ := Prod.mk.inj (some.inj same)
        exact absurd still lasts

/-- **A live key accepts exactly what its history accepts.** -/
theorem ok_iff_accepts
    (found : keys.find? id = some key) (active : nssKeyStatus key now = .active) :
    (s.verifyFleetKey keys now id secret).ok = true ↔
      Accepts s.keyRotationGrace log now secret := by
  rw [NSSKeyService.verify_of_active found active]
  unfold Accepts
  rw [← tracks.matches_current separates, ← tracks.matches_previous separates]
  split
  · rename_i current
    exact ⟨fun _ => .inl current, fun _ => rfl⟩
  · rename_i notCurrent
    split
    · rename_i before
      exact ⟨fun _ => .inr before, fun _ => rfl⟩
    · rename_i notBefore
      exact ⟨fun ok => (by cases ok), fun accepted => (accepted.elim notCurrent notBefore).elim⟩

/-- ... and reports the generation the secret was issued as. -/
theorem issuedAs_of_ok (found : keys.find? id = some key) (active : nssKeyStatus key now = .active)
    (ok : (s.verifyFleetKey keys now id secret).ok = true) :
    IssuedAs log secret (s.verifyFleetKey keys now id secret).generation := by
  rw [NSSKeyService.verify_of_active found active] at ok ⊢
  split at ok
  · rename_i current
    obtain ⟨older, shape⟩ :=
      head?_eq_some_iff.mp ((tracks.matches_current separates).mp current)
    rw [if_pos current, tracks.generation]
    exact issuedAs_latest shape
  · rename_i notCurrent
    split at ok
    · rename_i before
      obtain ⟨ends, was, -⟩ := (tracks.matches_previous separates).mp before
      obtain ⟨latest, older, shape⟩ := issued_of_previous was
      rw [if_neg notCurrent, if_pos before, tracks.generation]
      exact issuedAs_previous shape
    · cases ok

end

/-- A secret older than the previous one is not accepted. -/
theorem not_accepts_of_older (distinct : (issued log).Nodup) (older : secret ∈ (issued log).drop 2) :
    ¬ Accepts s.keyRotationGrace log now secret := by
  rintro (latest | ⟨ends, before, -⟩)
  · obtain ⟨rest, shape⟩ := head?_eq_some_iff.mp latest
    rw [shape] at distinct older
    exact (nodup_cons.mp distinct).1 (mem_of_mem_drop older)
  · obtain ⟨latest, rest, shape⟩ := issued_of_previous before
    rw [shape] at distinct older
    exact (nodup_cons.mp (nodup_cons.mp distinct).2).1 older

end Verify

/-- An injective hash separates. -/
theorem separates_of_injOn {s : NSSKeyService} {ops : List (Int × KeyOp)} {id presented : String}
    (injective : Set.InjOn s.hashNSSSecret
      {secret | secret ∈ issued ((run s ops).log id) ∨ secret = presented ∨ secret = s.seed}) :
    Separates s ((run s ops).log id) presented where
  presented x member same := injective (.inr (.inl rfl)) (.inl member) same
  seed x member same := by
    have drawn := (issued_sublist_secrets s ops id).subset (mem_reverse.mpr member)
    exact ne_seed_of_mem_secrets drawn (injective (.inl member) (.inr (.inr rfl)) same)

/-- **The life of a fleet key.**  After any operations, a secret is accepted exactly when
the key is neither revoked nor expired and the secret is the latest, or the one before it
in its grace and not cleared.  The generation reported is the one the secret was issued
as.  After a revocation no secret is accepted whatever is done later, and never one older
than the previous. -/
theorem fleet_key_lifecycle (s : NSSKeyService) (ops : List (Int × KeyOp)) (now : Int)
    (id presented : String) (distinct : (issued ((run s ops).log id)).Nodup)
    (injective : Set.InjOn s.hashNSSSecret
      {secret | secret ∈ issued ((run s ops).log id) ∨ secret = presented ∨ secret = s.seed}) :
    let log := (run s ops).log id
    let verdict := s.verifyFleetKey (run s ops).keys now id presented
    (verdict.ok = true ↔
      (∃ key, (run s ops).keys.find? id = some key ∧ ¬ key.Expired now) ∧
        KeyEvent.revoked ∉ log ∧ Accepts s.keyRotationGrace log now presented) ∧
    (verdict.ok = true → ∀ n, IssuedAs log presented n ↔ n = verdict.generation) ∧
    (∀ earlier later, ops = earlier ++ later → KeyEvent.revoked ∈ (run s earlier).log id →
      verdict.ok = false) ∧
    (presented ∈ (issued log).drop 2 → verdict.ok = false) := by
  intro log verdict
  have separates : Separates s log presented := separates_of_injOn injective
  have tracks {key : NSSKey} (found : (run s ops).keys.find? id = some key) : Tracks s key log :=
    (run_tracked s ops).present id key found
  have accepted : verdict.ok = true ↔
      (∃ key, (run s ops).keys.find? id = some key ∧ ¬ key.Expired now) ∧
        KeyEvent.revoked ∉ log ∧ Accepts s.keyRotationGrace log now presented := by
    constructor
    · intro ok
      obtain ⟨key, found, active⟩ := NSSKeyService.active_of_ok ok
      obtain ⟨unrevoked, unexpired⟩ := nssKeyStatus_active.mp active
      refine ⟨⟨key, found, unexpired⟩, fun revoked => ?_,
        (ok_iff_accepts (tracks found) separates found active).mp ok⟩
      rw [(tracks found).revoked.mpr revoked] at unrevoked
      cases unrevoked
    · rintro ⟨⟨key, found, unexpired⟩, unrevoked, accepts⟩
      have active : nssKeyStatus key now = .active := by
        refine nssKeyStatus_active.mpr ⟨?_, unexpired⟩
        rw [← Bool.not_eq_true]
        exact fun some => unrevoked ((tracks found).revoked.mp some)
      exact (ok_iff_accepts (tracks found) separates found active).mpr accepts
  refine ⟨accepted, fun ok n => ?_, fun earlier later split revoked => ?_, fun older => ?_⟩
  · obtain ⟨key, found, active⟩ := NSSKeyService.active_of_ok ok
    have asIssued := issuedAs_of_ok (tracks found) separates found active ok
    constructor
    · exact fun other => other.unique distinct asIssued
    · rintro rfl
      exact asIssued
  · have still : KeyEvent.revoked ∈ log := by
      have grown := log_suffix_append s earlier later id
      rw [← split] at grown
      exact grown.subset revoked
    rw [← Bool.not_eq_true]
    exact fun ok => (accepted.mp ok).2.1 still
  · rw [← Bool.not_eq_true]
    exact fun ok => not_accepts_of_older distinct older (accepted.mp ok).2.2

namespace Sample

/-- A service without limits, whose hash is the secret itself. -/
def keyService : NSSKeyService where
  admin := { nssKeyGroup := "fleet" }
  keyMaxLifetime := 0
  keyRotationGrace := 10
  hashNSSSecret := id
  parseAddress := fun _ => true
  seed := "00"
  seed_hex := by
    intro c member
    have zero : c = '0' := by simpa using member
    rw [zero]
    exact mem_cons_self

/-- A key admin. -/
def keyAdmin : Caller := ⟨["fleet"], "", some ⟨"u1", ""⟩⟩

/-- A key is made and rotated. -/
def rotation : List (Int × KeyOp) :=
  [(1, .create keyAdmin ⟨"web", "", "", none, none⟩ "one" ["nss_a"]),
    (5, .rotate keyAdmin "nss_a" "two")]

end Sample

open Sample in
/-- In its grace the first secret is still accepted, as generation 1 and no other. -/
theorem fleet_key_lifecycle_rotation : (issued ((run keyService rotation).log "nss_a")).Nodup ∧
      (keyService.verifyFleetKey (run keyService rotation).keys 14 "nss_a" "ssoossh_nss_one").ok =
        true ∧
      ∀ n, IssuedAs ((run keyService rotation).log "nss_a") "ssoossh_nss_one" n ↔ n = 1 := by
  have distinct : (issued ((run keyService rotation).log "nss_a")).Nodup := by decide +kernel
  have verdict : (keyService.verifyFleetKey (run keyService rotation).keys 14 "nss_a"
      "ssoossh_nss_one").ok = true ∧ (keyService.verifyFleetKey (run keyService rotation).keys 14
      "nss_a" "ssoossh_nss_one").generation = 1 := by decide +kernel
  have law := fleet_key_lifecycle keyService rotation 14 "nss_a" "ssoossh_nss_one" distinct
    injective_id.injOn
  have generation := law.2.1 verdict.1
  rw [verdict.2] at generation
  exact ⟨distinct, verdict.1, generation⟩

end Ssoossh.NSS
