import Ssoossh.NSS.Transitions

/-!
# The link of a login

A login links the person to the stored account of their own directory entry.  There are
two routines that decide which row an entry has: `nssTable.match`, which the sync uses and
which asks a row found by its DN whether it is the same entry, and `loginRow`, which does
not ask.

**A link of its own** is one to the row `match` picks (`Sheet.OwnRow`).  `commits_of_linkLogin`
says which links a login that nothing interrupts can come to, and `links_of_lookup` that it
does come to them, so that `login_links_own_iff` is exact: a login links another person's row
if the DN was reused and nothing else stops it.

That a link is never moved, and that no person has two, holds for every transaction of
every call, and so whatever runs at once.
-/

namespace Ssoossh.NSS

open Interleaving Prog Option

/-! ## The row of an entry -/

namespace Sheet

variable (accounts : Sheet accountTable) (directoryID dn : String)

/-- The row is the one `match` picks where the ID attribute is configured: it has the
entry's directory id, or none and the entry's DN. -/
def OwnRow (row : PosixUser) : Prop :=
  (∀ settings name number, settings.idConfigured = true →
    accounts.matchRow settings ⟨dn, directoryID, name, number⟩ = some row) ∧
    (row.directoryID = directoryID ∨ row.directoryID = "" ∧ row.dn = dn)

/-- The row is at the DN of an entry, but it is that of another entry, and no row has the
directory id of this one. -/
structure Displaced (row : PosixUser) : Prop where
  stored : row ∈ accounts.rows.rows
  at' : dn ≠ "" ∧ row.dn = dn
  other : row.directoryID ≠ "" ∧ row.directoryID ≠ directoryID
  unknown : ∀ row' ∈ accounts.rows.rows, row'.directoryID ≠ directoryID

/-- No such row is there to be linked: it has a person already, or this person has another
row. -/
def Clear (userID : String) : Prop :=
  ∀ row, accounts.Displaced directoryID dn row →
    row.own.userID ≠ none ∨
      ∃ row' ∈ accounts.rows.rows, row'.id ≠ row.id ∧ row'.own.userID = some userID

variable {accounts directoryID dn} {row : PosixUser}

theorem linkedElsewhere_eq_none {userID id : String} : accounts.linkedElsewhere userID id = none ↔
      ¬ ∃ row' ∈ accounts.rows.rows, row'.id ≠ id ∧ row'.own.userID = some userID := by
  rw [linkedElsewhere, first_eq_none]
  simp only [Bool.and_eq_false_imp, beq_iff_eq, bne_eq_false_iff_eq]
  constructor
  · rintro none ⟨row', stored, apart, linked⟩
    exact apart (none row' stored linked)
  · intro none row' stored linked
    by_contra apart
    exact none ⟨row', stored, apart, linked⟩

/-- The row a login finds is the entry's own, unless it is displaced. -/
theorem own_of_loginRow (identified : directoryID ≠ "")
    (found : accounts.loginRow directoryID dn = some row)
    (placed : ¬ accounts.Displaced directoryID dn row) : accounts.OwnRow directoryID dn row := by
  unfold loginRow at found
  rw [if_neg identified] at found
  unfold OwnRow matchRow
  cases byID : accounts.first fun row => row.directoryID == directoryID with
  | some =>
    rw [byID, some_or, Option.some.injEq] at found
    subst found
    refine ⟨fun settings name number configured => ?_, .inl (by simpa using (of_first byID).2)⟩
    simp [configured, identified, byID]
  | none =>
    rw [byID, none_or] at found
    by_cases named : dn = ""
    · rw [if_pos named] at found
      cases found
    · rw [if_neg named] at found
      obtain ⟨stored, here⟩ := of_first found
      have unknown : ∀ row' ∈ accounts.rows.rows, row'.directoryID ≠ directoryID := fun row' there =>
        by simpa using first_eq_none.mp byID row' there
      have blank : row.directoryID = "" := by
        by_contra other
        exact placed ⟨stored, ⟨named, by simpa using here⟩, ⟨other, unknown row stored⟩, unknown⟩
      refine ⟨fun settings name number configured => ?_, .inr ⟨blank, by simpa using here⟩⟩
      simp [configured, identified, byID, matchDN, found, sameEntry, blank]

/-- A displaced row is what a login finds. -/
theorem loginRow_of_displaced (displaced : accounts.Displaced directoryID dn row) :
    accounts.loginRow directoryID dn = some row := by
  obtain ⟨stored, ⟨named, here⟩, -, unknown⟩ := displaced
  have byID : (accounts.first fun row => row.directoryID == directoryID) = none := by
    rw [first_eq_none]
    intro row' there
    simpa using unknown row' there
  unfold loginRow
  rw [byID, ite_self, none_or, if_neg named]
  cases byDN : accounts.first fun row => row.dn == dn with
  | none =>
    have absent := first_eq_none.mp byDN row stored
    simp [here] at absent
  | some row' =>
    obtain ⟨stored', here'⟩ := of_first byDN
    have same : row'.dn = row.dn := by rw [here]; simpa using here'
    rw [eq_of_dn stored' stored (by rw [same, here]; exact named) same]

end Sheet

/-! ## Where a login can come to -/

/-- A login with a person's entry: its uid, where it carries one that is a number, and what
the search for that would find. -/
structure Login where
  settings : Settings
  userID : String
  directoryID : String
  dn : String
  uid : Option Nat
  answer : Except Failure (Answer OnDemandAccount)

namespace Login

variable (login : Login)

/-- `linkLogin`: nothing is linked without a person or a uid. -/
def program : Service Bool :=
  if login.userID = "" then pure false
  else
    match login.uid with
    | none => pure false
    | some uid =>
      linkLogin login.settings login.userID login.directoryID login.dn uid login.answer

/-- The read on demand it makes where no row was found. -/
def onDemand (uid : Nat) : Service Refreshed :=
  readAccountsOnDemand login.settings (.number uid) login.answer

/-- `loginRow` and `link`, after the read on demand. -/
def lookUp : Service Bool := do
  let row : Option PosixUser ← read (.loginRow login.directoryID login.dn)
  match row with
  | some row => link row login.userID
  | none => pure false

/-- The stored accounts are clear for this login. -/
def ClearIn (s : Shared) : Prop :=
  s.directory.accounts.Clear login.directoryID login.dn login.userID

/-- **Every link the login comes to is one of its own**, if nothing interrupts it. -/
def LinksOwn (s : Shared) : Prop :=
  ∀ tid id userID now next t,
    Advances (exec tid) login.program.run s (.act (.commit (.link id userID now)) next) t →
    ∀ row ∈ t.directory.accounts.rows.rows, row.id = id → row.own.userID = none →
      t.directory.accounts.OwnRow login.directoryID login.dn row

/-- **The accounts are clear whenever the login looks for its row**: as it begins, and where
it then finds none once the entry was read on demand. -/
def LooksUpClear (s : Shared) : Prop :=
  login.userID ≠ "" → ∀ uid, login.uid = some uid →
    login.ClearIn s ∧
      (s.directory.accounts.loginRow login.directoryID login.dn = none →
        ∀ tid refreshed t, Advances (exec tid) (login.onDemand uid).run s (.ret (.ok refreshed)) t →
          login.ClearIn t)

end Login

section Walk

variable {tid : Tid} {s t : Shared} {row : PosixUser} {userID id u : String} {now : Int}
variable {next : Except Failure Bool → Prog Act Act.Resp (Except Failure Bool)}

/-- The actions of `link`, of a row without a person. -/
theorem run_link (free : row.own.userID = none) (userID : String) :
    ∃ next, (link row userID).run = .act (.read (.linkedElsewhere userID row.id)) next ∧
      (∀ failure, next (.error failure) = .ret (.error failure)) ∧
      (∀ other, next (.ok (some other)) = .ret (.ok false)) ∧
      ∃ later, next (.ok none) = .act .now later ∧
        ∀ time, ∃ last, later time = .act (.commit (.link row.id userID time)) last ∧
          ∀ answer, ∃ outcome, last answer = .ret outcome := by
  unfold link
  rw [free]
  refine ⟨_, rfl, fun _ => rfl, fun _ => rfl, _, rfl, fun time => ⟨_, rfl, fun answer => ?_⟩⟩
  cases answer with
  | error | ok => exact ⟨_, rfl⟩

/-- **The link that `link` comes to.** -/
theorem commits_of_link
    (h : Advances (exec tid) (link row userID).run s (.act (.commit (.link id u now)) next) t) :
    t.directory = s.directory ∧ id = row.id ∧ u = userID ∧ row.own.userID = none ∧
      s.directory.accounts.linkedElsewhere userID row.id = none := by
  cases free : row.own.userID with
  | some =>
    unfold link at h
    rw [free] at h
    exact nomatch h.of_ret.1
  | none =>
    obtain ⟨first, shape, failed, taken, later, goes, commits⟩ := run_link free userID
    rw [shape] at h
    cases h with
    | step done rest =>
      rcases of_exec_read done with ⟨-, failure, rfl⟩ | ⟨same, rfl⟩
      · rw [failed] at rest
        exact nomatch rest.of_ret.1
      · rw [same] at rest
        show _ ∧ _ ∧ _ ∧ _ ∧ Query.answer s.directory (.linkedElsewhere userID row.id) = none
        cases other : Query.answer s.directory (.linkedElsewhere userID row.id) with
        | some =>
          rw [other, taken] at rest
          exact nomatch rest.of_ret.1
        | none =>
          rw [other, goes] at rest
          cases rest with
          | step clock rest =>
            rename_i time
            obtain ⟨last, commit, ends⟩ := commits time
            have same := of_exec_now clock
            subst same
            rw [commit] at rest
            cases rest with
            | here => exact ⟨rfl, rfl, rfl, rfl, rfl⟩
            | step linked rest =>
              rename_i answer
              obtain ⟨outcome, ended'⟩ := ends answer
              rw [ended'] at rest
              exact nomatch rest.of_ret.1

/-- `link` comes to its link where nothing is in the way. -/
theorem link_commits (tid : Tid) (free : row.own.userID = none)
    (alone : s.directory.accounts.linkedElsewhere userID row.id = none) :
    ∃ next, Advances (exec tid) (link row userID).run s
      (.act (.commit (.link row.id userID 0)) next) s := by
  obtain ⟨first, shape, -, -, later, goes, commits⟩ := run_link free userID
  obtain ⟨last, commit, -⟩ := commits (0 : Int)
  refine ⟨last, ?_⟩
  rw [shape]
  have reads : exec tid s (.read (.linkedElsewhere userID row.id)) (.done "") = some (s, .ok none) :=
    congrArg (fun other => some (s, Except.ok other)) alone
  refine .step reads ?_
  rw [goes]
  have ticks : exec tid s .now (.time 0) = some (s, (0 : Int)) := rfl
  refine .step ticks ?_
  rw [commit]
  exact .here

end Walk

/-! ### The read on demand links nothing -/

/-- The action is not a link. -/
def Unlinking : Act → Prop
  | .commit (.link _ _ _) => False
  | _ => True

variable {statement : Statement}

section OnDemand

variable {settings : Settings}

/-- A transaction, whatever its failure is called. -/
theorem fails_commit {words : Option String} (other : Unlinking (.commit statement)) :
    Fails Unlinking (fun _ => True) (commit statement words) := by
  refine (fails_perform other).bind fun answer => ?_
  cases answer with
  | ok => exact fails_pure
  | error => exact fails_throw trivial

theorem fails_clock : Fails Unlinking (fun _ => True) clock := fails_perform trivial

variable {complete : NSSKinds}

theorem fails_storeAccountCall {a : NSSAccount} {disabled : Bool} {contenders : List NSSAccount} :
    Fails Unlinking (fun _ => True) (storeAccountCall settings a disabled contenders complete) :=
  fails_clock.bind fun _ => fails_commit trivial

theorem fails_storeGroupCall {g : NSSGroup} {contenders : List NSSGroup}
    {index : Option NSSMemberIndex} {gone : Option (String → Bool)} {importing : Bool} :
    Fails Unlinking (fun _ => True)
      (storeGroupCall settings g contenders complete index gone importing) :=
  fails_clock.bind fun _ => fails_commit trivial

theorem fails_storeMembershipGroups {gone : String → Bool} {groups : List NSSGroup} :
    Fails Unlinking (fun _ => True) (storeMembershipGroups settings gone groups) := by
  induction groups with
  | nil => exact fails_pure
  | cons g rest ih =>
    refine fails_storeGroupCall.bind fun stored => ?_
    refine ih.bind fun gids => ?_
    cases stored.row with
    | some | none => exact fails_pure

theorem fails_storeMembershipsOf {account : PosixUser} {groups : List NSSGroup}
    {gone : String → Bool} :
    Fails Unlinking (fun _ => True) (storeMembershipsOf settings account groups gone) := by
  refine fails_storeMembershipGroups.bind fun gids => ?_
  exact fails_clock.bind fun _ => (fails_commit (by trivial)).bind fun _ => fails_pure

theorem fails_storeAccountsOnDemand {asked : Asked} {all : List OnDemandAccount}
    {entries : List (OnDemandAccount × Nat)} {result : Refreshed} :
    Fails Unlinking (fun _ => True)
      (storeAccountsOnDemand settings asked complete all entries result) := by
  induction entries generalizing result with
  | nil => exact fails_pure
  | cons entry rest ih =>
    obtain ⟨found, i⟩ := entry
    refine fails_storeAccountCall.bind fun stored => ?_
    cases row : stored.row with
    | none => exact ih
    | some => exact fails_storeMembershipsOf.bind fun _ => ih

theorem Login.fails_onDemand (login : Login) (uid : Nat) :
    Fails Unlinking (fun _ => True) (login.onDemand uid) := by
  unfold Login.onDemand readAccountsOnDemand
  split
  · exact fails_throw trivial
  · exact fails_storeAccountsOnDemand

end OnDemand

/-! ### The whole login -/

namespace Login

variable {login : Login} {tid : Tid} {s t : Shared} {id u : String} {now : Int} {uid : Nat}
variable {next : Except Failure Bool → Prog Act Act.Resp (Except Failure Bool)}

/-- The actions of a login that has a person and a uid. -/
theorem run_program (login : Login) (person : login.userID ≠ "") (numbered : login.uid = some uid) :
    ∃ next, login.program.run = .act (.read (.loginRow login.directoryID login.dn)) next ∧
      (∀ failure, next (.error failure) = .ret (.error failure)) ∧
      (∀ row, next (.ok (some row)) = (link row login.userID).run) ∧
      next (.ok none) = (login.onDemand uid >>= fun _ => login.lookUp).run := by
  unfold program
  rw [if_neg person, numbered]
  exact ⟨_, rfl, fun _ => rfl, fun _ => rfl, rfl⟩

/-- A login without them links nothing. -/
theorem acts_of_advances {action : Act} {more : action.Resp → Prog Act Act.Resp (Except Failure Bool)}
    (h : Advances (exec tid) login.program.run s (.act action more) t) :
    login.userID ≠ "" ∧ ∃ uid, login.uid = some uid := by
  unfold program at h
  split_ifs at h with person
  · exact nomatch h.of_ret.1
  · cases numbered : login.uid with
    | none =>
      rw [numbered] at h
      exact nomatch h.of_ret.1
    | some uid => exact ⟨person, uid, rfl⟩

/-- ... and of its second look. -/
theorem run_lookUp (login : Login) :
    ∃ next, login.lookUp.run = .act (.read (.loginRow login.directoryID login.dn)) next ∧
      (∀ failure, next (.error failure) = .ret (.error failure)) ∧
      (∀ row, next (.ok (some row)) = (link row login.userID).run) ∧
      next (.ok none) = .ret (.ok false) :=
  ⟨_, rfl, fun _ => rfl, fun _ => rfl, rfl⟩

/-- The link is of the row that a look for it found in the accounts. -/
structure Found (login : Login) (s : Shared) (id : String) (t : Shared) : Prop where
  unchanged : t.directory = s.directory
  row : ∃ row, s.directory.accounts.loginRow login.directoryID login.dn = some row ∧ id = row.id ∧
    row.own.userID = none ∧ s.directory.accounts.linkedElsewhere login.userID row.id = none

/-- One look for the row: the link is of what it found, or it found nothing and the login goes
on. -/
theorem looks {first : (Act.read (.loginRow login.directoryID login.dn)).Resp →
      Prog Act Act.Resp (Except Failure Bool)}
    (failed : ∀ failure, first (.error failure) = .ret (.error failure))
    (found : ∀ row, first (.ok (some row)) = (link row login.userID).run)
    (h : Advances (exec tid) (.act (.read (.loginRow login.directoryID login.dn)) first) s
      (.act (.commit (.link id u now)) next) t) :
    login.Found s id t ∨ s.directory.accounts.loginRow login.directoryID login.dn = none ∧
      Advances (exec tid) (first (.ok none)) s (.act (.commit (.link id u now)) next) t := by
  cases h with
  | step done rest =>
    rcases of_exec_read done with ⟨-, failure, rfl⟩ | ⟨same, rfl⟩
    · rw [failed] at rest
      exact nomatch rest.of_ret.1
    · rw [same] at rest
      change Advances _ (first (.ok (s.directory.accounts.loginRow ..))) _ _ _ at rest
      cases row : s.directory.accounts.loginRow login.directoryID login.dn with
      | some row' =>
        rw [row, found] at rest
        obtain ⟨same, here, -, free, alone⟩ := commits_of_link rest
        exact .inl ⟨same, row', row, here, free, alone⟩
      | none =>
        rw [row] at rest
        exact .inr ⟨rfl, rest⟩

/-- **The links a login comes to.** -/
theorem commits_of_linkLogin (person : login.userID ≠ "") (numbered : login.uid = some uid)
    (h : Advances (exec tid) login.program.run s (.act (.commit (.link id u now)) next) t) :
    login.Found s id t ∨
      (s.directory.accounts.loginRow login.directoryID login.dn = none ∧
        ∃ refreshed mid, Advances (exec tid) (login.onDemand uid).run s (.ret (.ok refreshed)) mid ∧
          login.Found mid id t) := by
  obtain ⟨first, shape, failed, found, missed⟩ := login.run_program person numbered
  rw [shape] at h
  refine (looks failed found h).imp_right fun ⟨absent, rest⟩ => ⟨absent, ?_⟩
  rw [missed] at rest
  rcases Advances.of_bind rest with ⟨action, more, inside, same⟩ | ⟨outcome, mid, read, rest⟩
  · -- Within the read on demand there is no link.
    cases same
    obtain _ | ⟨impossible, -⟩ := Confined.advances (login.fails_onDemand uid) inside
    exact impossible.elim
  · cases outcome with
    | error => exact nomatch rest.of_ret.1
    | ok refreshed =>
      obtain ⟨second, shape, failed, found, missed⟩ := login.run_lookUp
      change Advances (exec tid) login.lookUp.run mid _ t at rest
      rw [shape] at rest
      rcases looks failed found rest with linked | ⟨-, rest⟩
      · exact ⟨refreshed, mid, read, linked⟩
      · rw [missed] at rest
        exact nomatch rest.of_ret.1

/-- A read of the login's row is answered. -/
theorem exec_loginRow (login : Login) (tid : Tid) (s : Shared) :
    exec tid s (.read (.loginRow login.directoryID login.dn)) (.done "") =
      some (s, .ok (s.directory.accounts.loginRow login.directoryID login.dn)) := rfl

variable {row : PosixUser}

/-- **A login comes to a link** of what its first look finds ... -/
theorem links_of_lookup (tid : Tid) (person : login.userID ≠ "") (numbered : login.uid = some uid)
    (found : s.directory.accounts.loginRow login.directoryID login.dn = some row)
    (free : row.own.userID = none)
    (alone : s.directory.accounts.linkedElsewhere login.userID row.id = none) :
    ∃ next, Advances (exec tid) login.program.run s
      (.act (.commit (.link row.id login.userID 0)) next) s := by
  obtain ⟨first, shape, -, finds, -⟩ := login.run_program person numbered
  obtain ⟨next, links⟩ := link_commits tid free alone
  refine ⟨next, ?_⟩
  rw [shape]
  refine .step (login.exec_loginRow tid s) ?_
  rw [found, finds]
  exact links

/-- ... and of what its second finds. -/
theorem links_of_second_lookup {refreshed : Refreshed} (person : login.userID ≠ "")
    (numbered : login.uid = some uid)
    (missed : s.directory.accounts.loginRow login.directoryID login.dn = none)
    (read : Advances (exec tid) (login.onDemand uid).run s (.ret (.ok refreshed)) t)
    (found : t.directory.accounts.loginRow login.directoryID login.dn = some row)
    (free : row.own.userID = none)
    (alone : t.directory.accounts.linkedElsewhere login.userID row.id = none) :
    ∃ next, Advances (exec tid) login.program.run s
      (.act (.commit (.link row.id login.userID 0)) next) t := by
  obtain ⟨first, shape, -, -, misses⟩ := login.run_program person numbered
  obtain ⟨second, shape', -, finds, -⟩ := login.run_lookUp
  obtain ⟨next, links⟩ := link_commits tid free alone
  refine ⟨next, ?_⟩
  rw [shape]
  refine .step (login.exec_loginRow tid s) ?_
  rw [missed, misses]
  refine Advances.bind read ?_
  show Advances (exec tid) login.lookUp.run t _ t
  rw [shape']
  refine .step (login.exec_loginRow tid t) ?_
  rw [found, finds]
  exact links

/-- A link of a row that was found in clear accounts. -/
theorem Found.own (identified : login.directoryID ≠ "") (found : login.Found s id t)
    (clear : login.ClearIn s) (stored : row ∈ t.directory.accounts.rows.rows) (here : row.id = id) :
    t.directory.accounts.OwnRow login.directoryID login.dn row := by
  obtain ⟨same, row', looked, rfl, free, alone⟩ := found
  rw [same] at stored ⊢
  have stored' : row' ∈ s.directory.accounts.rows.rows := by
    rcases or_eq_some_iff.mp looked with byID | ⟨-, byDN⟩
    · exact (Sheet.of_first (ite_none_left_eq_some.mp byID).2).1
    · exact (Sheet.of_first (ite_none_left_eq_some.mp byDN).2).1
  obtain rfl := Sheet.eq_of_id stored stored' here
  refine Sheet.own_of_loginRow identified looked fun displaced => ?_
  rcases clear row displaced with linked | taken
  · exact linked free
  · exact Sheet.linkedElsewhere_eq_none.mp alone taken

/-- Accounts that are not clear have a row that a look finds and that is not the entry's. -/
theorem exists_of_not_clear (blocked : ¬ login.ClearIn s) :
    ∃ row, s.directory.accounts.loginRow login.directoryID login.dn = some row ∧
      row ∈ s.directory.accounts.rows.rows ∧ row.own.userID = none ∧
      s.directory.accounts.linkedElsewhere login.userID row.id = none ∧
      ¬ s.directory.accounts.OwnRow login.directoryID login.dn row := by
  unfold ClearIn Sheet.Clear at blocked
  push Not at blocked
  obtain ⟨row, displaced, free, alone⟩ := blocked
  refine ⟨row, Sheet.loginRow_of_displaced displaced, displaced.stored, free, ?_, ?_⟩
  · rw [Sheet.linkedElsewhere_eq_none]
    rintro ⟨row', stored, apart, linked⟩
    exact alone row' stored apart linked
  · rintro ⟨-, same | ⟨blank, -⟩⟩
    · exact displaced.other.2 same
    · exact displaced.other.1 blank

/-- One login: its links are its own exactly if the accounts are clear when it looks. -/
theorem linksOwn_iff (identified : login.directoryID ≠ "") :
    login.LinksOwn s ↔ login.LooksUpClear s := by
  constructor
  · intro own person uid numbered
    refine ⟨?_, fun missed tid refreshed t read => ?_⟩
    · by_contra blocked
      obtain ⟨row, found, stored, free, alone, other⟩ := exists_of_not_clear blocked
      obtain ⟨next, links⟩ := links_of_lookup 0 person numbered found free alone
      exact other (own _ _ _ _ _ _ links row stored rfl free)
    · by_contra blocked
      obtain ⟨row, found, stored, free, alone, other⟩ := exists_of_not_clear blocked
      obtain ⟨next, links⟩ := links_of_second_lookup person numbered missed read found free alone
      exact other (own _ _ _ _ _ _ links row stored rfl free)
  · intro clearWhenever tid id userID now next t links row stored here _
    obtain ⟨person, uid, numbered⟩ := acts_of_advances links
    obtain ⟨clear, later⟩ := clearWhenever person uid numbered
    rcases commits_of_linkLogin person numbered links with found | ⟨missed, refreshed, mid, read, found⟩
    · exact found.own identified clear stored here
    · exact found.own identified (later missed tid refreshed mid read) stored here

end Login

/-! ## Links stay -/

variable {userID : String}

/-- No transaction moves a link. -/
theorem AccountChange.keeps_link {d : Directory} {row row' : PosixUser}
    (change : AccountChange d statement row row') (linked : row.own.userID = some userID) :
    row'.own.userID = some userID := by
  cases change with
  | same changed => rw [← changed.own, linked]
  | stored name anchor changed | accepted number changed =>
    rw [← changed.own]
    exact linked
  | rekeyed stored number pending changed =>
    rw [← changed.own, ← linked]
    unfold rekeyedAccount clearedAccount settledAccount movedAccount Relational.Rel.rewrite
    split_ifs <;> rfl
  | missing unseen present changed | tombstoned id live changed =>
    rw [← changed.own]
    exact linked
  | linked here free =>
    rw [free] at linked
    cases linked
  | claimed id unmailed number gid changed =>
    rw [← changed.own]
    exact linked

/-- The link of a row after a step of any call. -/
theorem link_of_step {cfg next : ServiceConfig} {label : ServiceLabel}
    (stepped : service.step cfg label = some next) {row row' : PosixUser}
    (before : row ∈ cfg.shared.directory.accounts.rows.rows)
    (after : row' ∈ next.shared.directory.accounts.rows.rows) (same : row'.id = row.id)
    (linked : row.own.userID = some userID) : row'.own.userID = some userID := by
  rcases directory_of_step stepped with unchanged | ⟨statement, newID, result, -, done⟩
  · rw [unchanged] at after
    rw [Sheet.eq_of_id after before same]
    exact linked
  · exact ((accounts_turn done).row before after same).keeps_link linked

/-- No person is linked to two rows. -/
theorem eq_of_linked {accounts : Sheet accountTable} {a b : PosixUser}
    (inA : a ∈ accounts.rows.rows) (inB : b ∈ accounts.rows.rows)
    (linkedA : a.own.userID = some userID) (linkedB : b.own.userID = some userID) : a = b := by
  have clash : accountTable.Clash a b := by
    refine .inr (.inr (.inr (.inr ⟨?_, linkedA.trans linkedB.symm⟩)))
    show a.own.userID ≠ none
    rw [linkedA]
    exact some_ne_none userID
  exact Relational.Rel.eq_of_clash NSSTable.Clash.symm inA inB clash

/-- **A login links the person's own entry** exactly if the accounts are clear whenever it
looks: no row at the entry's DN is that of another entry, unless a row has the entry's
directory id, or that row has a person, or the person another row.  A link is never moved,
and no person is linked to two rows, whatever runs at once. -/
theorem login_links_own_iff (login : Login) (identified : login.directoryID ≠ "") :
    (∀ s, login.LinksOwn s ↔ login.LooksUpClear s) ∧
      (∀ (cfg next : ServiceConfig) (label : ServiceLabel), service.step cfg label = some next →
        ∀ row ∈ cfg.shared.directory.accounts.rows.rows,
        ∀ row' ∈ next.shared.directory.accounts.rows.rows, row'.id = row.id →
        ∀ userID, row.own.userID = some userID → row'.own.userID = some userID) ∧
      ∀ (cfg : ServiceConfig), ∀ a ∈ cfg.shared.directory.accounts.rows.rows,
        ∀ b ∈ cfg.shared.directory.accounts.rows.rows,
        ∀ userID, a.own.userID = some userID → b.own.userID = some userID → a = b := by
  refine ⟨fun s => Login.linksOwn_iff identified, ?_, ?_⟩
  · intro cfg next label stepped row before row' after same userID linked
    exact link_of_step stepped before after same linked
  · intro cfg a inA b inB userID linkedA linkedB
    exact eq_of_linked inA inB linkedA linkedB

namespace Sample

/-- A person logs in with a new entry, while the directory cannot be searched. -/
def newcomer : Login where
  settings := settings
  userID := "person"
  directoryID := "new"
  dn := "uid=ada"
  uid := some 1001
  answer := .error (.database "connection closed")

end Sample

open Sample in
/-- The newcomer's own entry is stored, at the same DN: the login links its row. -/
theorem login_links_own_newcomer : newcomer.directoryID ≠ "" ∧ ∃ cfg,
    after (refreshing 0 (account "uid=ada" "new" "ada" 1000) "row" 1) = some cfg ∧
    newcomer.LinksOwn cfg.shared ∧
    (newcomer.program.run.drive (exec 1) cfg.shared []
      [.done "", .done "", .time 2, .done ""]).map (fun run =>
        run.2.1.directory.accounts.rows.rows.map fun row => (row.directoryID, row.own.userID)) =
      some [("new", some "person")] := by
  have ran : (after (refreshing 0 (account "uid=ada" "new" "ada" 1000) "row" 1)).map (fun cfg =>
      ((cfg.shared.directory.accounts.loginRow "new" "uid=ada").map (·.directoryID),
        (newcomer.program.run.drive (exec 1) cfg.shared []
          [.done "", .done "", .time 2, .done ""]).map fun run =>
            run.2.1.directory.accounts.rows.rows.map fun row => (row.directoryID, row.own.userID))) =
      some (some "new", some [("new", some "person")]) := by decide +kernel
  have identified : newcomer.directoryID ≠ "" := by decide
  obtain ⟨cfg, stored, data⟩ := map_eq_some_iff.mp ran
  obtain ⟨looked, linked⟩ := Prod.mk.inj data
  obtain ⟨row, found, own⟩ := map_eq_some_iff.mp looked
  refine ⟨identified, cfg, stored, ?_, linked⟩
  refine ((login_links_own_iff newcomer identified).1 cfg.shared).mpr fun _ _ _ =>
    ⟨fun row' displaced => ?_, fun missed => ?_⟩
  · -- the row the look finds has the entry's directory id
    cases found.symm.trans (Sheet.loginRow_of_displaced displaced)
    exact absurd own displaced.other.2
  · cases found.symm.trans missed

open Sample in
/-- The DN of an entry that is gone was given to a new one.  The account stored for the old
entry is linked to the person who logs in with the new. -/
theorem newcomer_links_old_entry :
    ((after (refreshing 0 (account "uid=ada" "old" "ada" 1000) "row" 1)).bind fun cfg =>
      (newcomer.program.run.drive (exec 1) cfg.shared []
        [.done "", .done "", .time 2, .done ""]).map fun run =>
          run.2.1.directory.accounts.rows.rows.map fun row =>
            (row.dn, row.directoryID, row.own.userID)) =
      some [("uid=ada", "old", some "person")] := by
  decide +kernel

end Ssoossh.NSS
