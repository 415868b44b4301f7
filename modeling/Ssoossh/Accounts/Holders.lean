import Ssoossh.Lib.Table
import Ssoossh.Policy.CertType

/-!
# Who holds an account

A session is rebuilt from two places: the account lists on the users row, which login
wrote, and the directory's lists over them (`RefreshIdentity`, `applyStored`).  The pages
and the mail ask the question the other way round (`usersHoldingAccount`,
`server/service/accountholders.go`): a text search over the stored JSON picks candidates,
and their columns are decoded to decide.

`holders_are_linked` says that the two agree: the holders are exactly the users that
`checkServiceAccountLinkage` lets approve for the account.  Its one real step is that the
text search misses nobody, since a name that a list has stands quoted in the list's text.

The other fields of a directory row (the name, groups, extra claims) take part in no
account check and are left out.
-/

namespace Ssoossh.Accounts

open Relational List Bool

/-! ## Columns -/

/-- `decodeStoredStringList` and `decodeAccountList`: an empty or malformed column holds
nothing. -/
def decodeStoredStringList (encoded : String) : List String :=
  ((Json.parse encoded.toList).bind (Json.intoStrings [])).getD []

/-- Decode the attributes of a directory row, or nothing if they are unreadable. -/
def decodeAttributes (encoded : String) : Option (List (String × List String)) :=
  (Json.parse encoded.toList).bind Json.intoStringsMap

/-- A list column: empty, malformed, or written by `encoding/json`, where a nil list is
`null`. -/
def ListColumn (text : String) : Prop :=
  text = "" ∨ (Json.parse text.toList).bind (Json.intoStrings []) = none ∨
    ∃ list : Option (List String),
      text.toList = Json.print ((list.map Json.ofStrings).getD .null)

/-- An attributes column: empty, malformed, or written by `encoding/json`, where a nil map
is `null`. -/
def AttributesColumn (text : String) : Prop :=
  text = "" ∨ decodeAttributes text = none ∨
    ∃ map : Option (List (String × Option (List String))),
      text.toList = Json.print ((map.map Json.ofStringsMap).getD .null)

/-! ## Tables -/

/-- The columns of a users row that are used here. -/
structure User where
  id : String
  username : String
  displayName : String
  email : String
  serviceAccounts : String
  otherAccounts : String
  disabledAt : Option Int
  emailDetailLevel : Option String
deriving DecidableEq

/-- The attributes of a directory row. -/
structure UserLDAP where
  userID : String
  attributes : String
deriving DecidableEq

/-- The two tables. -/
structure Tables where
  users : List User
  ldap : List UserLDAP
  userKeys : (users.map User.id).Nodup
  ldapKeys : (ldap.map UserLDAP.userID).Nodup

/-- The columns are what this program writes, or broken. -/
structure Tables.Written (t : Tables) : Prop where
  serviceColumns : ∀ user ∈ t.users, ListColumn user.serviceAccounts
  otherColumns : ∀ user ∈ t.users, ListColumn user.otherAccounts
  attributeColumns : ∀ row ∈ t.ldap, AttributesColumn row.attributes

/-! ## A rebuilt session -/

/-- The directory row of a user. -/
def storedRow (t : Tables) (id : String) : Option UserLDAP :=
  t.ldap.find? fun row => decide (row.userID = id)

/-- `storedValues`. -/
def storedValues (t : Tables) (id : String) : Option (List (String × List String)) :=
  (storedRow t id).bind fun row => decodeAttributes row.attributes

/-- `applyLDAPValues`, for the account lists: a field the directory carries is the whole
answer. -/
def applyLDAPValues (identity : Identity) (values : List (String × List String)) : Identity :=
  { identity with
    otherAccounts := (values.lookup "other_accounts").getD identity.otherAccounts
    serviceAccounts := (values.lookup "service_accounts").getD identity.serviceAccounts }

/-- `RefreshIdentity`, for the account lists of the session of a user. -/
def refreshIdentity (t : Tables) (ldapEnabled : Bool) (user : User) (identity : Identity) : Identity :=
  let rebuilt := { identity with
    username := user.username
    otherAccounts := decodeStoredStringList user.otherAccounts
    serviceAccounts := decodeStoredStringList user.serviceAccounts }
  if ldapEnabled then
    match storedValues t user.id with
    | none => rebuilt
    | some values => applyLDAPValues rebuilt values
  else rebuilt

/-! ## Holders -/

/-- `accountHolding`. -/
structure AccountHolding where
  user : User
  claimed : Bool
  own : Bool
deriving DecidableEq

section Holders

variable (collation : Collation) (t : Tables) (account : String)

/-- The pattern of the text search: the quoted name, anywhere. -/
def pattern : List Char := '%' :: (Json.print (Json.ofString account) ++ ['%'])

/-- Whether a column matches. -/
def mentions (column : String) : Bool := like collation (pattern account) column.toList

/-- `claimedAccountCandidates`: a search in the text of the columns, wider than the link. -/
def claimedAccountCandidates (allowUserAccounts : Bool) : List User :=
  t.users.filter fun user => mentions collation account user.serviceAccounts ||
    (allowUserAccounts && (user.username == account || mentions collation account user.otherAccounts))

/-- The users whose directory row matches. -/
def directoryCandidates : List User :=
  t.users.filter fun user => t.ldap.any fun row =>
    decide (row.userID = user.id) && mentions collation account row.attributes

/-- `withDirectoryCandidates`: the users it adds. -/
def withDirectoryCandidates (candidates : List User) : List User :=
  candidates ++ (directoryCandidates collation t account).filter fun user =>
    !(candidates.map User.id).contains user.id

/-- The attributes that `withDirectoryCandidates` reads for a candidate. -/
def overlay (id : String) : List (String × List String) :=
  ((storedRow t id).bind fun row =>
    if row.attributes = "" then none else decodeAttributes row.attributes).getD []

/-- `holdsAccount`: what the directory says replaces the columns, field by field. -/
def holdsAccount (user : User) (directory : List (String × List String)) (allowUserAccounts : Bool) :
    Bool × Bool :=
  let serviceAccounts := (directory.lookup "service_accounts").getD
    (decodeStoredStringList user.serviceAccounts)
  let otherAccounts := (directory.lookup "other_accounts").getD
    (decodeStoredStringList user.otherAccounts)
  (serviceAccounts.contains account,
    allowUserAccounts && (user.username == account || otherAccounts.contains account))

/-- The holding of one candidate, if it is one. -/
def holding? (ldapEnabled allowUserAccounts : Bool) (user : User) : Option AccountHolding :=
  let directory := if ldapEnabled then overlay t user.id else []
  let (claimed, own) := holdsAccount account user directory allowUserAccounts
  if !claimed && !own then none else some ⟨user, claimed, own && !claimed⟩

/-- `usersHoldingAccount`: the candidates of the searches that hold it, by username. -/
def usersHoldingAccount (ldapEnabled allowUserAccounts : Bool) : List AccountHolding :=
  if account = "" then []
  else
    let claimed := claimedAccountCandidates collation t account allowUserAccounts
    let candidates := if ldapEnabled then withDirectoryCandidates collation t account claimed else claimed
    (candidates.filterMap (holding? t account ldapEnabled allowUserAccounts)).mergeSort
      fun a b => decide (a.user.username ≤ b.user.username)

end Holders

/-! ## The text search misses nobody -/

section Search

variable {collation : Collation} {account : String}

/-- A name that a list column holds is found in its text. -/
theorem mentions_of_mem_list {text : String} (column : ListColumn text)
    (member : account ∈ decodeStoredStringList text) : mentions collation account text = true := by
  unfold decodeStoredStringList at member
  rcases column with rfl | malformed | ⟨list, written⟩
  · cases member
  · rw [malformed] at member
    cases member
  · rw [written, Json.parse_print] at member
    cases list with
    | none => cases member
    | some =>
      simp only [Option.map_some, Option.getD_some, Option.bind_some, Json.intoStrings_ofStrings]
        at member
      refine like_of_infix ?_
      rw [written]
      exact Json.infix_print_ofStrings member

/-- A name that a field of an attributes column holds is found in its text. -/
theorem mentions_of_mem_attributes {text name : String} {values : List (String × List String)}
    {list : List String} (column : AttributesColumn text) (decoded : decodeAttributes text = some values)
    (field : values.lookup name = some list) (member : account ∈ list) :
    mentions collation account text = true := by
  rcases column with rfl | malformed | ⟨map, written⟩
  · cases decoded
  · rw [malformed] at decoded
    cases decoded
  · rw [decodeAttributes, written, Json.parse_print] at decoded
    cases map with
    | none =>
      cases decoded
      cases field
    | some map =>
      simp only [Option.map_some, Option.getD_some, Option.bind_some,
        Json.intoStringsMap_ofStringsMap, Option.some.injEq] at decoded
      subst decoded
      obtain ⟨before, after, shape, -⟩ := lookup_eq_some_iff.mp field
      have there : (name, list) ∈ map.map fun field => (field.1, field.2.getD []) := by
        rw [← mem_reverse, shape]
        simp
      obtain ⟨⟨name', strings⟩, stored, pair⟩ := mem_map.mp there
      cases strings with
      | none =>
        cases pair
        cases member
      | some =>
        cases pair
        refine like_of_infix ?_
        rw [written]
        exact Json.infix_print_ofStringsMap stored member

end Search

/-! ## The lists of a session -/

section Linked

variable {collation : Collation} {t : Tables} {account : String} {ldapEnabled allowUserAccounts : Bool}
  {user : User} (session : Identity)

/-- What lies over the columns of a user. -/
def directory (t : Tables) (ldapEnabled : Bool) (id : String) : List (String × List String) :=
  if ldapEnabled then overlay t id else []

theorem overlay_eq (id : String) : overlay t id = (storedValues t id).getD [] := by
  unfold overlay storedValues
  cases storedRow t id with
  | none => rfl
  | some =>
    rw [Option.bind_some, Option.bind_some]
    split
    · rename_i empty
      rw [empty]
      rfl
    · rfl

/-- The lists of a rebuilt session are the columns with the directory's lists over them. -/
theorem refreshIdentity_eq : refreshIdentity t ldapEnabled user session = { session with
    username := user.username
    otherAccounts := ((directory t ldapEnabled user.id).lookup "other_accounts").getD
      (decodeStoredStringList user.otherAccounts)
    serviceAccounts := ((directory t ldapEnabled user.id).lookup "service_accounts").getD
      (decodeStoredStringList user.serviceAccounts) } := by
  unfold refreshIdentity directory
  cases ldapEnabled with
  | false => rfl
  | true =>
    rw [if_pos rfl, if_pos rfl, overlay_eq]
    cases storedValues t user.id <;> rfl

/-- What `holdsAccount` decides is what the session's lists say. -/
theorem holdsAccount_iff (t : Tables) (account : String) (ldapEnabled allowUserAccounts : Bool)
    (user : User) :
    ((holdsAccount account user (directory t ldapEnabled user.id) allowUserAccounts).1 = true ↔
      account ∈ (refreshIdentity t ldapEnabled user session).serviceAccounts) ∧
    ((holdsAccount account user (directory t ldapEnabled user.id) allowUserAccounts).2 = true ↔
      allowUserAccounts = true ∧ account ∈ heldAccounts (refreshIdentity t ldapEnabled user session)) := by
  rw [refreshIdentity_eq]
  constructor
  · exact contains_iff_mem
  · simp only [holdsAccount, and_eq_true, or_eq_true, beq_iff_eq, contains_iff_mem,
      mem_heldAccounts]
    exact and_congr_right fun _ => or_congr_left eq_comm

/-! ## Candidates -/

/-- A user the directory's field names is among the directory's candidates. -/
theorem mem_directoryCandidates {name : String} {list : List String} (written : t.Written)
    (stored : user ∈ t.users) (field : (overlay t user.id).lookup name = some list) (member : account ∈ list) :
    user ∈ directoryCandidates collation t account := by
  rw [overlay_eq] at field
  cases values : storedValues t user.id with
  | none =>
    rw [values] at field
    cases field
  | some =>
    rw [values] at field
    obtain ⟨row, found, readable⟩ := Option.bind_eq_some_iff.mp values
    have inTable : row ∈ t.ldap := mem_of_find?_eq_some found
    have key := List.find?_some found
    refine mem_filter.mpr ⟨stored, any_eq_true.mpr ⟨row, inTable, ?_⟩⟩
    rw [key, Bool.true_and]
    exact mentions_of_mem_attributes (written.attributeColumns row inTable) readable field member

theorem mem_withDirectoryCandidates {candidates : List User} (known : ∀ c ∈ candidates, c ∈ t.users) :
    user ∈ withDirectoryCandidates collation t account candidates ↔
      user ∈ candidates ∨ user ∈ directoryCandidates collation t account := by
  rw [withDirectoryCandidates, mem_append, mem_filter]
  constructor
  · exact fun h => h.imp_right And.left
  · rintro (here | there)
    · exact .inl here
    · by_cases already : user.id ∈ candidates.map User.id
      · obtain ⟨other, member, same⟩ := mem_map.mp already
        have : other = user := inj_on_of_nodup_map t.userKeys (known other member)
          (mem_filter.mp there).1 same
        exact .inl (this ▸ member)
      · refine .inr ⟨there, ?_⟩
        simpa using already

theorem claimedAccountCandidates_subset :
    ∀ c ∈ claimedAccountCandidates collation t account allowUserAccounts, c ∈ t.users :=
  fun _ member => (mem_filter.mp member).1

/-- The users that the two text searches pick. -/
def candidates (collation : Collation) (t : Tables) (account : String)
    (ldapEnabled allowUserAccounts : Bool) : List User :=
  let claimed := claimedAccountCandidates collation t account allowUserAccounts
  if ldapEnabled then withDirectoryCandidates collation t account claimed else claimed

theorem candidates_subset (h : user ∈ candidates collation t account ldapEnabled allowUserAccounts) :
    user ∈ t.users := by
  cases ldapEnabled with
  | false => exact claimedAccountCandidates_subset _ h
  | true =>
    rcases (mem_withDirectoryCandidates claimedAccountCandidates_subset).mp h with here | there
    · exact claimedAccountCandidates_subset _ here
    · exact (mem_filter.mp there).1

theorem candidates_nodup :
    ((candidates collation t account ldapEnabled allowUserAccounts).map User.id).Nodup := by
  have users (p : User → Bool) : ((t.users.filter p).map User.id).Nodup :=
    t.userKeys.sublist (filter_sublist.map _)
  unfold candidates
  cases ldapEnabled with
  | false => exact users _
  | true =>
    rw [if_pos rfl, withDirectoryCandidates, map_append, nodup_append]
    refine ⟨users _, ?_, ?_⟩
    · exact (users _).sublist (filter_sublist.map _)
    · rintro id here other there rfl
      obtain ⟨user, member, rfl⟩ := mem_map.mp there
      have fresh := (mem_filter.mp member).2
      simp only [not_eq_true', contains_eq_mem, decide_eq_false_iff_not] at fresh
      exact fresh here

/-- **The text searches miss nobody.** -/
theorem mem_candidates_of_held (written : t.Written) (stored : user ∈ t.users)
    (held : (holdsAccount account user (directory t ldapEnabled user.id) allowUserAccounts).1 = true ∨
      (holdsAccount account user (directory t ldapEnabled user.id) allowUserAccounts).2 = true) :
    user ∈ candidates collation t account ldapEnabled allowUserAccounts := by
  -- a claim column, or the person's own accounts, put the user among the first candidates
  have fromColumns (h : mentions collation account user.serviceAccounts = true ∨
      allowUserAccounts = true ∧ (user.username = account ∨
        mentions collation account user.otherAccounts = true)) :
      user ∈ candidates collation t account ldapEnabled allowUserAccounts := by
    have here : user ∈ claimedAccountCandidates collation t account allowUserAccounts := by
      refine mem_filter.mpr ⟨stored, ?_⟩
      simpa using h
    cases ldapEnabled with
    | false => exact here
    | true => exact (mem_withDirectoryCandidates claimedAccountCandidates_subset).mpr (.inl here)
  -- and a field of the directory among those it adds
  have fromDirectory {name : String} {list : List String}
      (field : (directory t ldapEnabled user.id).lookup name = some list) (member : account ∈ list) :
      user ∈ candidates collation t account ldapEnabled allowUserAccounts := by
    cases ldapEnabled with
    | false => cases field
    | true =>
      exact (mem_withDirectoryCandidates claimedAccountCandidates_subset).mpr
        (.inr (mem_directoryCandidates written stored field member))
  rcases held with claimed | own
  · cases field : (directory t ldapEnabled user.id).lookup "service_accounts" with
    | some =>
      simp only [holdsAccount, field, Option.getD_some, contains_iff_mem] at claimed
      exact fromDirectory field claimed
    | none =>
      simp only [holdsAccount, field, Option.getD_none, contains_iff_mem] at claimed
      exact fromColumns (.inl (mentions_of_mem_list (written.serviceColumns user stored) claimed))
  · simp only [holdsAccount, and_eq_true, or_eq_true, beq_iff_eq] at own
    obtain ⟨allowed, own | own⟩ := own
    · exact fromColumns (.inr ⟨allowed, .inl own⟩)
    · cases field : (directory t ldapEnabled user.id).lookup "other_accounts" with
      | some =>
        rw [field, Option.getD_some, contains_iff_mem] at own
        exact fromDirectory field own
      | none =>
        rw [field, Option.getD_none, contains_iff_mem] at own
        exact fromColumns (.inr ⟨allowed, .inr
          (mentions_of_mem_list (written.otherColumns user stored) own)⟩)

/-! ## Holdings -/

/-- **A candidate is a holding** exactly if the lists of its session, any session, link it to
the account. -/
theorem holding?_eq_some {holding : AccountHolding} :
    holding? t account ldapEnabled allowUserAccounts user = some holding ↔
      (account ∈ (refreshIdentity t ldapEnabled user session).serviceAccounts ∨
        allowUserAccounts = true ∧
          account ∈ heldAccounts (refreshIdentity t ldapEnabled user session)) ∧
      holding.user = user ∧
      (holding.claimed = true ↔
        account ∈ (refreshIdentity t ldapEnabled user session).serviceAccounts) ∧
      (holding.own = true ↔ holding.claimed = false) := by
  obtain ⟨claims, owns⟩ := holdsAccount_iff session t account ldapEnabled allowUserAccounts user
  rw [← claims, ← owns]
  obtain ⟨user', claimed', own'⟩ := holding
  have shape : holding? t account ldapEnabled allowUserAccounts user =
      let held := holdsAccount account user (directory t ldapEnabled user.id) allowUserAccounts
      if !held.1 && !held.2 then none else some ⟨user, held.1, held.2 && !held.1⟩ := rfl
  rw [shape]
  generalize holdsAccount account user (directory t ldapEnabled user.id) allowUserAccounts = held
  obtain ⟨claimed, own⟩ := held
  cases claimed <;> cases own <;> cases claimed' <;> cases own' <;> simp [eq_comm]

/-- The holdings are those of the candidates. -/
theorem mem_usersHoldingAccount {holding : AccountHolding} :
    holding ∈ usersHoldingAccount collation t account ldapEnabled allowUserAccounts ↔
      account ≠ "" ∧ holding.user ∈ candidates collation t account ldapEnabled allowUserAccounts ∧
        holding? t account ldapEnabled allowUserAccounts holding.user = some holding := by
  have unfolded : usersHoldingAccount collation t account ldapEnabled allowUserAccounts =
      if account = "" then []
      else ((candidates collation t account ldapEnabled allowUserAccounts).filterMap
        (holding? t account ldapEnabled allowUserAccounts)).mergeSort
          fun a b => decide (a.user.username ≤ b.user.username) := rfl
  rw [unfolded]
  by_cases empty : account = ""
  · simp [empty]
  · rw [if_neg empty, mem_mergeSort, mem_filterMap]
    constructor
    · rintro ⟨user, candidate, held⟩
      obtain ⟨-, rfl, -⟩ := (holding?_eq_some { subject := "" }).mp held
      exact ⟨empty, candidate, held⟩
    · rintro ⟨-, candidate, held⟩
      exact ⟨holding.user, candidate, held⟩

/-- No user is listed twice. -/
theorem usersHoldingAccount_nodup :
    ((usersHoldingAccount collation t account ldapEnabled allowUserAccounts).map
      fun holding => holding.user.id).Nodup := by
  -- sorting permutes, and each candidate yields at most one holding, which is its own
  have ids (users : List User) :
      ((users.filterMap (holding? t account ldapEnabled allowUserAccounts)).map
        fun holding => holding.user.id).Sublist (users.map User.id) := by
    induction users with
    | nil => exact .slnil
    | cons user users ih =>
      cases held : holding? t account ldapEnabled allowUserAccounts user with
      | none =>
        rw [filterMap_cons_none held]
        exact ih.cons _
      | some holding =>
        obtain ⟨-, rfl, -⟩ := (holding?_eq_some { subject := "" }).mp held
        rw [filterMap_cons_some held]
        exact ih.cons_cons _
  unfold usersHoldingAccount
  split
  · exact nodup_nil
  · have sorted := mergeSort_perm
      ((candidates collation t account ldapEnabled allowUserAccounts).filterMap
        (holding? t account ldapEnabled allowUserAccounts))
      fun a b => decide (a.user.username ≤ b.user.username)
    exact (sorted.map _).nodup_iff.mpr (candidates_nodup.sublist (ids _))

/-- Whether the lists of a session link an account, as `checkServiceAccountLinkage` reads
them. -/
def Linked (t : Tables) (account : String) (ldapEnabled allowUserAccounts : Bool) (user : User)
    (session : Identity) : Prop :=
  account ∈ (refreshIdentity t ldapEnabled user session).serviceAccounts ∨
    allowUserAccounts = true ∧ account ∈ heldAccounts (refreshIdentity t ldapEnabled user session)

/-- The holders are the candidates whose session is linked to the account. -/
theorem mem_holders :
    user ∈ (usersHoldingAccount collation t account ldapEnabled allowUserAccounts).map
        AccountHolding.user ↔
      account ≠ "" ∧ user ∈ candidates collation t account ldapEnabled allowUserAccounts ∧
        Linked t account ldapEnabled allowUserAccounts user session := by
  rw [mem_map]
  constructor
  · rintro ⟨holding, member, rfl⟩
    obtain ⟨named, candidate, held⟩ := mem_usersHoldingAccount.mp member
    exact ⟨named, candidate, ((holding?_eq_some session).mp held).1⟩
  · rintro ⟨named, candidate, linked⟩
    obtain ⟨claimed, claims⟩ : ∃ claimed : Bool, claimed = true ↔
        account ∈ (refreshIdentity t ldapEnabled user session).serviceAccounts :=
      ⟨_, decide_eq_true_iff⟩
    have own : (!claimed) = true ↔ claimed = false := by simp
    have held : holding? t account ldapEnabled allowUserAccounts user =
        some ⟨user, claimed, !claimed⟩ :=
      (holding?_eq_some session).mpr ⟨linked, rfl, claims, own⟩
    refine ⟨⟨user, claimed, !claimed⟩, ?_, rfl⟩
    exact mem_usersHoldingAccount.mpr ⟨named, candidate, held⟩

/-- In written columns the text searches find everybody whose session is linked. -/
theorem mem_candidates_of_linked (written : t.Written) (stored : user ∈ t.users)
    (linked : Linked t account ldapEnabled allowUserAccounts user session) :
    user ∈ candidates collation t account ldapEnabled allowUserAccounts := by
  obtain ⟨claims, owns⟩ := holdsAccount_iff session t account ldapEnabled allowUserAccounts user
  exact mem_candidates_of_held written stored (linked.imp claims.mpr owns.mpr)

end Linked

/-- **The holders are those authorization accepts.**  Without repetition, exactly the users
that may approve for the account with the lists their session is rebuilt with; `claimed`
if the rebuilt service accounts have it, and `own` if it is accepted otherwise. -/
theorem holders_are_linked (ext : Externals) (collation : Collation) (t : Tables)
    (written : t.Written) (account : String) (ldapEnabled allowUserAccounts : Bool)
    (session : User → Identity) :
    let holdings := usersHoldingAccount collation t account ldapEnabled allowUserAccounts
    let rebuilt (user : User) := refreshIdentity t ldapEnabled user (session user)
    (holdings.map fun holding => holding.user.id).Nodup ∧
    (∀ user, user ∈ holdings.map AccountHolding.user ↔ user ∈ t.users ∧
      checkServiceAccountLinkage ext (rebuilt user) account allowUserAccounts = .ok ()) ∧
    ∀ holding ∈ holdings,
      (holding.claimed = true ↔ account ∈ (rebuilt holding.user).serviceAccounts) ∧
      (holding.own = true ↔
        checkServiceAccountLinkage ext (rebuilt holding.user) account allowUserAccounts = .ok () ∧
          holding.claimed = false) := by
  intro holdings rebuilt
  refine ⟨usersHoldingAccount_nodup, fun user => ?_, fun holding member => ?_⟩
  · rw [mem_holders (session user), checkServiceAccountLinkage_eq_ok]
    constructor
    · rintro ⟨named, candidate, linked⟩
      exact ⟨candidates_subset candidate, named, linked⟩
    · rintro ⟨stored, named, linked⟩
      exact ⟨named, mem_candidates_of_linked (session user) written stored linked, linked⟩
  · obtain ⟨named, stored, held⟩ := mem_usersHoldingAccount.mp member
    obtain ⟨linked, -, claimed, own⟩ := (holding?_eq_some (session holding.user)).mp held
    refine ⟨claimed, own.trans ?_⟩
    rw [checkServiceAccountLinkage_eq_ok]
    exact ⟨fun h => ⟨⟨named, linked⟩, h⟩, And.right⟩

namespace Sample

/-- A comparison of texts by their characters. -/
def exact : Collation := ⟨fun a b => a == b, fun _ => beq_self_eq_true _⟩

/-- Somebody whose login carried no accounts. -/
def holder : User :=
  { id := "u1", username := "mika", displayName := "Mika", email := "mika@corp.example",
    serviceAccounts := "null", otherAccounts := "null", disabledAt := none, emailDetailLevel := none }

/-- Their row of the directory, which names an account. -/
def holderRow : UserLDAP :=
  { userID := "u1", attributes := "\x7b\"service_accounts\":[\"deploy\"]\x7d" }

/-- The two rows. -/
def tables : Tables where
  users := [holder]
  ldap := [holderRow]
  userKeys := by decide
  ldapKeys := by decide

theorem tables_written : tables.Written where
  serviceColumns user member := by
    rw [mem_singleton.mp member]
    exact .inr (.inr ⟨none, by decide⟩)
  otherColumns user member := by
    rw [mem_singleton.mp member]
    exact .inr (.inr ⟨none, by decide⟩)
  attributeColumns row member := by
    rw [mem_singleton.mp member]
    exact .inr (.inr ⟨some [("service_accounts", some ["deploy"])], by decide +kernel⟩)

end Sample

/-- The holder by the directory may approve for the account. -/
theorem holders_are_linked_directory : checkServiceAccountLinkage Externals.plain
      (refreshIdentity Sample.tables true Sample.holder { subject := "mika" }) "deploy" false =
        .ok () := by
  have listed : Sample.holder ∈ (usersHoldingAccount Sample.exact Sample.tables "deploy" true
      false).map AccountHolding.user := by decide +kernel
  exact (((holders_are_linked Externals.plain Sample.exact Sample.tables Sample.tables_written "deploy"
    true false fun _ => { subject := "mika" }).2.1 Sample.holder).mp listed).2

end Ssoossh.Accounts
