import Klldap.Lib.Bincode
import Klldap.Lib.Decimal
import Klldap.Lib.Effect
import Klldap.Lib.Relational
import Klldap.Lib.Run
import Klldap.Lib.Table
import Klldap.Lib.Text
import Klldap.Store
import Klldap.Types
import Klldap.Opaque.Handler
import Klldap.Opaque.Replay
import Klldap.Schema
import Klldap.Sql.Value
import Klldap.Sql.RoundTrip
import Klldap.Filter
import Klldap.Lib.Trool
import Klldap.Sql.Filter
import Klldap.World
import Klldap.Sql.Posix
import Klldap.Sql.Group
import Klldap.Sql.User
import Klldap.Sql.Own
import Klldap.Backend
import Klldap.Sql.Calm
import Klldap.Sql.Roster
import Klldap.Sql.Builtin
import Klldap.Lib.Interleave
import Klldap.Interface
import Klldap.Administrators
import Klldap.AccessControl
import Klldap.GraphQL.Helpers
import Klldap.GraphQL.Mutation
import Klldap.Confined
import Klldap.GraphQL.Authorization
import Klldap.GraphQL.UpdateUser
import Klldap.Http.AuthService
import Klldap.Http.Disabled
import Klldap.Http.Logout
import Klldap.Ldap.Dn
import Klldap.Ldap.Rdn
import Klldap.Ldap.Resolve
import Klldap.Ldap.SchemaManager
import Klldap.Ldap.Attributes
import Klldap.Ldap.Filters
import Klldap.Ldap.Search
import Klldap.Ldap.Password
import Klldap.Ldap.Write
import Klldap.Ldap.Handler
import Klldap.Ldap.Answers
import Klldap.Ldap.Session
import Klldap.Ldap.Restricted
import Klldap.Ldap.NonInterference
import Klldap.Ldap.Scopes
import Klldap.Ldap.Spelling
import Klldap.Ldap.Bind
import Klldap.Ldap.Authority
import Klldap.Sql.Interleaving
import Klldap.Ldap.Membership
import Klldap.Sql.Writes
import Klldap.Principals
import Klldap.Sql.Stored
import Klldap.GraphQL.Ous
import Klldap.Placement
import Klldap.GraphQL.Filters
import Klldap.GraphQL.OuDeletion
import Klldap.GraphQL.OuInterleaving
import Klldap.Http.Reset
import Klldap.Http.Refresh
import Klldap.Http.Blacklist
import Klldap.Ldap.Entries
import Klldap.Kerberos
import Klldap.Sql.Migrations
import Klldap.Lib.Like
import Klldap.Sql.Substring
import Klldap.Ldap.ListEquality
import Klldap.Ldap.OuFilters
import Klldap.Sql.Complement
import Klldap.Ldap.Requests
import Klldap.Ldap.Compare
import Klldap.Ldap.Keys
import Klldap.Ldap.Aliases
import Klldap.GraphQL.Consolidate
import Klldap.Sql.Numbers
import Klldap.CaseFolding
import Klldap.GraphQL.OuChanges
import Klldap.Kerberos.Acl
import Klldap.Kerberos.Keytab
import Klldap.Ldap.DnLaws
import Klldap.Ldap.OuTree
import Klldap.Sql.LowercaseColumns
import Klldap.GraphQL.Query
import Klldap.GraphQL.SchemaNames
import Klldap.Sql.AttributeMap
import Klldap.Ldap.Atomicity
import Klldap.Sql.Version12
import Klldap.Sql.NumberRaces
import Klldap.Requests
import Klldap.Server.Startup
import Klldap.Server.Readiness
import Klldap.Server.Lifetimes
