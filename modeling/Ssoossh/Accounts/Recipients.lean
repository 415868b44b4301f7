import Ssoossh.Accounts.Holders

/-!
# Who is shown and who is written to

The page of an enrollment lists the holders of its account (`accountHolders`,
`server/service/enrollment.go`), and a notice about the enrollment goes to the holders that
are enabled and have an address (`NotificationHandler.recipients`,
`server/service/notification.go`).  Both resolve the holders with `usersHoldingAccount`.

The handler asks through a `NotificationService` that it builds with a database and nothing
else, so the two switches of the configuration are off there whatever the configuration
says.  `recipients_are_holders_iff` says for which tables that makes no difference.
-/

namespace Ssoossh.Accounts

open Relational

/-! ## The page -/

/-- The two switches of the configuration: `ldap.enabled` and
`cert_options.service.allow_user_accounts`. -/
structure Switches where
  ldapEnabled : Bool
  allowUserAccounts : Bool

/-- `AccountHolder`. -/
structure AccountHolder where
  userID : String
  username : String
  name : String
  email : String
  disabled : Bool
  own : Bool
deriving DecidableEq

/-- `accountHolders`. -/
def accountHolders (config : Switches) (collation : Collation) (t : Tables) (account : String) :
    List AccountHolder :=
  (usersHoldingAccount collation t account config.ldapEnabled config.allowUserAccounts).map
    fun holding =>
      { userID := holding.user.id
        username := holding.user.username
        name := holding.user.displayName
        email := holding.user.email
        disabled := holding.user.disabledAt.isSome
        own := holding.own }

/-! ## The mail -/

/-- The columns of an enrollments row that are used here. -/
structure Enrollment where
  id : String
  serviceAccount : String
  notificationEmail : String
deriving DecidableEq

/-- What the handler reads: the users, the enrollments and the addresses of the fleet keys. -/
structure Mailroom where
  tables : Tables
  enrollments : List Enrollment
  nssKeys : List (String × String)

/-- `notify.Event`, for what addresses it. -/
structure Event where
  userID : String := ""
  serviceAccount : String := ""
  enrollmentID : String := ""
  nssKeyID : String := ""

/-- `delivery`. -/
structure Delivery where
  address : String
  userID : String := ""
  advanced : Bool := false
deriving DecidableEq

/-- `model.OrSimplified`. -/
def orSimplified (level : Option String) : String :=
  match level with
  | some level => if level = "simplified" || level = "advanced" then level else "simplified"
  | none => "simplified"

/-- `deliveryFor`. -/
def deliveryFor (user : User) : Delivery :=
  { address := user.email
    userID := user.id
    advanced := orSimplified user.emailDetailLevel == "advanced" }

/-- The fields of a `NotificationService` that the holders depend on, with Go's zero
values. -/
structure NotificationService where
  ldapEnabled : Bool := false
  userAccountsAsService : Bool := false

/-- `ServiceAccountRecipients`: holders who are enabled and have an address. -/
def NotificationService.serviceAccountRecipients (service : NotificationService)
    (collation : Collation) (t : Tables) (account : String) : List User :=
  ((usersHoldingAccount collation t account service.ldapEnabled service.userAccountsAsService).map
    AccountHolding.user).filter fun user => user.disabledAt.isNone && user.email != ""

section Handler

variable (collation : Collation) (room : Mailroom) (event : Event)

/-- `nssKeyRecipients`. -/
def nssKeyRecipients : List Delivery :=
  match room.nssKeys.lookup event.nssKeyID with
  | none => []
  | some address => if address = "" then [] else [{ address }]

/-- `enrollmentAddress`. -/
def enrollmentAddress : String :=
  if event.enrollmentID = "" then ""
  else
    match room.enrollments.find? fun row => decide (row.id = event.enrollmentID) with
    | none => ""
    | some enrollment => enrollment.notificationEmail

/-- `NotificationHandler.recipients`. -/
def recipients : List Delivery :=
  if event.nssKeyID ≠ "" then nssKeyRecipients room event
  else if event.serviceAccount ≠ "" ∨ event.enrollmentID ≠ "" then
    let address := enrollmentAddress room event
    if address ≠ "" then [{ address }]
    else
      -- the service is built on the spot, from the database alone
      let holders := ({} : NotificationService).serviceAccountRecipients collation room.tables
        event.serviceAccount
      holders.map deliveryFor
  else
    match room.tables.users.find? fun user => decide (user.id = event.userID) with
    | none => []
    | some user => if user.email = "" then [] else [deliveryFor user]

end Handler

/-- An event about an enrollment (`NewEnrollmentEvent`). -/
def Enrollment.event (enrollment : Enrollment) : Event :=
  { enrollmentID := enrollment.id, serviceAccount := enrollment.serviceAccount }

/-! ## The two resolutions -/

section Resolutions

variable {collation : Collation} {t : Tables} {account : String}

/-- A user the mail can reach. -/
def Reachable (user : User) : Prop := user.disabledAt = none ∧ user.email ≠ ""

/-- The users an event about an enrollment without an address goes to. -/
theorem recipients_event {room : Mailroom} {enrollment : Enrollment}
    (named : enrollment.serviceAccount ≠ "") (unaddressed : enrollmentAddress room enrollment.event = "") :
    recipients collation room enrollment.event =
      (({} : NotificationService).serviceAccountRecipients collation room.tables
        enrollment.serviceAccount).map deliveryFor := by
  have unkeyed : ¬ enrollment.event.nssKeyID ≠ "" := fun keyed => keyed rfl
  have filed : enrollment.event.serviceAccount ≠ "" ∨ enrollment.event.enrollmentID ≠ "" := .inl named
  simp only [recipients, if_neg unkeyed, if_pos filed, unaddressed, ne_eq, not_true_eq_false, if_false]
  rfl

/-- An enrollment on file without an address has none. -/
theorem enrollmentAddress_event {room : Mailroom} {enrollment : Enrollment}
    (unaddressed : enrollment.notificationEmail = "")
    (stored : room.enrollments.find? (fun row => decide (row.id = enrollment.id)) = some enrollment) :
    enrollmentAddress room enrollment.event = "" := by
  unfold enrollmentAddress
  split
  · rfl
  · show (match room.enrollments.find? fun row => decide (row.id = enrollment.id) with
      | none => ""
      | some found => found.notificationEmail) = ""
    rw [stored]
    exact unaddressed

theorem mem_serviceAccountRecipients {service : NotificationService} {user : User} :
    user ∈ service.serviceAccountRecipients collation t account ↔
      user ∈ (usersHoldingAccount collation t account service.ldapEnabled
        service.userAccountsAsService).map AccountHolding.user ∧ Reachable user := by
  rw [NotificationService.serviceAccountRecipients, List.mem_filter]
  simp [Reachable]

/-- The reachable users on the page. -/
theorem mem_reachable_holders {config : Switches} {id : String} :
    (∃ holder ∈ accountHolders config collation t account,
        holder.userID = id ∧ holder.disabled = false ∧ holder.email ≠ "") ↔
      ∃ user ∈ (usersHoldingAccount collation t account config.ldapEnabled
        config.allowUserAccounts).map AccountHolding.user, user.id = id ∧ Reachable user := by
  simp [accountHolders, Reachable]

end Resolutions

/-! ## When the two agree -/

section Agreement

variable (config : Switches) (collation : Collation) (t : Tables) (account : String) (user : User)

/-- Whether an account is linked to a user by what the configuration says to read: the
directory's field over the claim column and, if allowed, the person's own accounts. -/
def Links : Prop :=
  let fields := directory t config.ldapEnabled user.id
  account ∈ (fields.lookup "service_accounts").getD (decodeStoredStringList user.serviceAccounts) ∨
    config.allowUserAccounts = true ∧ (account = user.username ∨
      account ∈ (fields.lookup "other_accounts").getD (decodeStoredStringList user.otherAccounts))

/-- Whether a text search that the configuration asks for finds the user. -/
def Finds : Prop :=
  mentions collation account user.serviceAccounts = true ∨
    (config.allowUserAccounts = true ∧
      (user.username = account ∨ mentions collation account user.otherAccounts = true)) ∨
    config.ldapEnabled = true ∧
      ∃ row ∈ t.ldap, row.userID = user.id ∧ mentions collation account row.attributes = true

/-- Neither switch is on. -/
def Switches.off : Switches := ⟨false, false⟩

end Agreement

section Agreement

variable {config : Switches} {collation : Collation} {t : Tables} {account : String} {user : User}

theorem mem_candidates_iff_finds :
    user ∈ candidates collation t account config.ldapEnabled config.allowUserAccounts ↔
      user ∈ t.users ∧ Finds config collation t account user := by
  have claimed : user ∈ claimedAccountCandidates collation t account config.allowUserAccounts ↔
      user ∈ t.users ∧ (mentions collation account user.serviceAccounts = true ∨
        config.allowUserAccounts = true ∧
          (user.username = account ∨ mentions collation account user.otherAccounts = true)) := by
    simp [claimedAccountCandidates]
  have added : user ∈ directoryCandidates collation t account ↔ user ∈ t.users ∧
      ∃ row ∈ t.ldap, row.userID = user.id ∧ mentions collation account row.attributes = true := by
    simp [directoryCandidates]
  unfold candidates Finds
  cases config.ldapEnabled with
  | false =>
    rw [if_neg (by decide), claimed]
    simp
  | true =>
    rw [if_pos rfl, mem_withDirectoryCandidates claimedAccountCandidates_subset, claimed, added,
      ← and_or_left, or_assoc]
    simp only [true_and]

/-- The holders are the users that are found and linked. -/
theorem mem_holders_iff : user ∈ (usersHoldingAccount collation t account config.ldapEnabled
        config.allowUserAccounts).map AccountHolding.user ↔
      user ∈ t.users ∧ account ≠ "" ∧ Finds config collation t account user ∧
        Links config t account user := by
  have linked : Linked t account config.ldapEnabled config.allowUserAccounts user { subject := "" } ↔
      Links config t account user := by
    rw [Linked, refreshIdentity_eq, mem_heldAccounts]
    exact Iff.rfl
  rw [mem_holders { subject := "" }, mem_candidates_iff_finds, linked, and_assoc, and_left_comm]

/-- With both switches off the claim column decides. -/
theorem links_off :
    Links Switches.off t account user ↔ account ∈ decodeStoredStringList user.serviceAccounts :=
  ⟨fun links => links.resolve_right fun own => Bool.noConfusion own.1, Or.inl⟩

theorem finds_off : Finds Switches.off collation t account user ↔
      mentions collation account user.serviceAccounts = true := by
  simp [Finds, Switches.off]

/-- Whom the handler's service resolves. -/
theorem mem_recipients_off :
    user ∈ ({} : NotificationService).serviceAccountRecipients collation t account ↔
      (user ∈ t.users ∧ account ≠ "" ∧ mentions collation account user.serviceAccounts = true ∧
        account ∈ decodeStoredStringList user.serviceAccounts) ∧ Reachable user := by
  have holds : user ∈ (usersHoldingAccount collation t account Switches.off.ldapEnabled
      Switches.off.allowUserAccounts).map AccountHolding.user ↔ _ := mem_holders_iff
  rw [finds_off, links_off] at holds
  exact mem_serviceAccountRecipients.trans (and_congr_left fun _ => holds)

end Agreement

/-- **The mail reaches the people on the page**, for an enrollment without an address of its
own, exactly if every enabled user with an address is found and linked by the claim column
just when the user is found and linked by all that the configuration says to read. -/
theorem recipients_are_holders_iff (config : Switches) (collation : Collation) (room : Mailroom)
    (enrollment : Enrollment) (named : enrollment.serviceAccount ≠ "")
    (unaddressed : enrollment.notificationEmail = "")
    (stored : room.enrollments.find? (fun row => decide (row.id = enrollment.id)) = some enrollment) :
    (∀ id, id ∈ (recipients collation room enrollment.event).map Delivery.userID ↔
      ∃ holder ∈ accountHolders config collation room.tables enrollment.serviceAccount,
        holder.userID = id ∧ holder.disabled = false ∧ holder.email ≠ "") ↔
    ∀ user ∈ room.tables.users, user.disabledAt = none → user.email ≠ "" →
      (mentions collation enrollment.serviceAccount user.serviceAccounts = true ∧
          enrollment.serviceAccount ∈ decodeStoredStringList user.serviceAccounts ↔
        Finds config collation room.tables enrollment.serviceAccount user ∧
          Links config room.tables enrollment.serviceAccount user) := by
  have silent := enrollmentAddress_event unaddressed stored
  have mailed (id : String) : id ∈ (recipients collation room enrollment.event).map Delivery.userID ↔
      ∃ user ∈ room.tables.users, user.id = id ∧ Reachable user ∧
        mentions collation enrollment.serviceAccount user.serviceAccounts = true ∧
          enrollment.serviceAccount ∈ decodeStoredStringList user.serviceAccounts := by
    rw [recipients_event named silent, List.map_map, List.mem_map]
    refine exists_congr fun user => ?_
    rw [mem_recipients_off]
    exact ⟨fun ⟨⟨⟨known, _, there⟩, reachable⟩, same⟩ => ⟨known, same, reachable, there⟩,
      fun ⟨known, same, reachable, there⟩ => ⟨⟨⟨known, named, there⟩, reachable⟩, same⟩⟩
  have shown (id : String) : (∃ holder ∈ accountHolders config collation room.tables
        enrollment.serviceAccount, holder.userID = id ∧ holder.disabled = false ∧ holder.email ≠ "") ↔
      ∃ user ∈ room.tables.users, user.id = id ∧ Reachable user ∧
        Finds config collation room.tables enrollment.serviceAccount user ∧
          Links config room.tables enrollment.serviceAccount user := by
    rw [mem_reachable_holders]
    refine exists_congr fun user => ?_
    rw [mem_holders_iff]
    exact ⟨fun ⟨⟨known, _, there⟩, same, reachable⟩ => ⟨known, same, reachable, there⟩,
      fun ⟨known, same, reachable, there⟩ => ⟨⟨known, named, there⟩, same, reachable⟩⟩
  simp only [mailed, shown]
  constructor
  · -- a row is known by its id, so agreement on ids is agreement on rows
    intro agree user known enabled reached
    have same {other : User} (there : other ∈ room.tables.users) (key : other.id = user.id) :
        other = user := List.inj_on_of_nodup_map room.tables.userKeys there known key
    constructor
    · intro claims
      obtain ⟨other, there, key, -, links⟩ :=
        (agree user.id).mp ⟨user, known, rfl, ⟨enabled, reached⟩, claims⟩
      exact same there key ▸ links
    · intro links
      obtain ⟨other, there, key, -, claims⟩ :=
        (agree user.id).mpr ⟨user, known, rfl, ⟨enabled, reached⟩, links⟩
      exact same there key ▸ claims
  · intro agree id
    refine exists_congr fun user => and_congr_right fun known => and_congr_right fun _ => ?_
    exact and_congr_right fun reachable => agree user known reachable.1 reachable.2

namespace Sample

/-- An enrollment for the account, without an address. -/
def enrollment : Enrollment := ⟨"e1", "deploy", ""⟩

/-- What the handler reads. -/
def room : Mailroom := { tables, enrollments := [enrollment], nssKeys := [] }

end Sample

/-- With the directory on, somebody who holds the account by the directory alone stands on
the page, and the mail reaches nobody. -/
theorem directory_holder_not_mailed :
    accountHolders ⟨true, false⟩ Sample.exact Sample.tables "deploy" =
        [⟨"u1", "mika", "Mika", "mika@corp.example", false, false⟩] ∧
      recipients Sample.exact Sample.room Sample.enrollment.event = [] := by
  constructor <;> decide +kernel

namespace Sample

/-- The claim of the holder's last login names the account as the directory does. -/
def claimed : Mailroom :=
  { room with
    tables :=
      { tables with
        users := [{ holder with serviceAccounts := "[\"deploy\"]" }]
        userKeys := by decide } }

end Sample

open Sample in
/-- With the directory on, a holder whom both name stands on the page and is mailed. -/
theorem recipients_are_holders_claimed :
    (recipients exact claimed enrollment.event).map Delivery.userID = ["u1"] ∧
      ∀ id, id ∈ (recipients exact claimed enrollment.event).map Delivery.userID ↔
        ∃ holder ∈ accountHolders ⟨true, false⟩ exact claimed.tables "deploy",
          holder.userID = id ∧ holder.disabled = false ∧ holder.email ≠ "" := by
  refine ⟨by decide +kernel, (recipients_are_holders_iff ⟨true, false⟩ exact claimed enrollment
    (by decide) rfl (by decide)).mpr fun user known _ _ => ?_⟩
  cases List.mem_singleton.mp known
  exact iff_of_true (by decide +kernel) ⟨.inl (by decide +kernel), .inl (by decide +kernel)⟩

end Ssoossh.Accounts
