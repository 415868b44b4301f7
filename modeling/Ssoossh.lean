import Ssoossh.Policy.Meaning
import Ssoossh.Policy.SourceRules
import Ssoossh.Server.PageClaims
import Ssoossh.Server.Redemption
import Ssoossh.Server.Stranded
import Ssoossh.Server.Explanation
import Ssoossh.Server.ApprovalWindow
import Ssoossh.Signer.Sign
import Ssoossh.Server.Relay
import Ssoossh.NSS.Withheld
import Ssoossh.NSS.Pending
import Ssoossh.NSS.Memberships
import Ssoossh.NSS.Tombstones
import Ssoossh.Accounts.Recipients
import Ssoossh.Server.Redelivery
import Ssoossh.NSS.Renewal
import Ssoossh.NSS.LoginLinks
import Ssoossh.NSS.DistinguishedNames
import Ssoossh.LDAP.Allowlist
import Ssoossh.LDAP.RoleEvents
import Ssoossh.Accounts.Refresh
import Ssoossh.Nssd.RequireGroups
import Ssoossh.Nssd.Outage
import Ssoossh.Nssd.RoundTrip
import Ssoossh.Nssd.Backoff
import Ssoossh.Nssd.Refresher
import Ssoossh.Nssd.Connections
import Ssoossh.Client.FileAgent
import Ssoossh.NSS.MemberWrites
import Ssoossh.NSS.Usage
import Ssoossh.Server.EchoCodes
