import AccessPolicy.Documents.Service
import AccessPolicy.Http.Enforcement

/-!
The policy of the document site: who may send which request, before the operations have their say.
-/

namespace AccessPolicy

namespace Documents

def rule (methods : List String) (path guard : String) : RouteRule := ⟨path, methods, .plain guard⟩

def siteRules : List RouteRule :=
  [rule ["GET"] "/health" "permitAll",
   rule ["GET"] "/docs" "permitAll",
   rule ["GET"] "/openapi.json" "permitAll",
   rule ["GET"] "/me" "isAuthenticated()",
   rule ["GET"] "/admin/users" "hasRole('ADMIN') and isFullyAuthenticated()",
   rule ["GET"] "/admin/audit" "hasPermission('daily', 'AuditReport', 'read')",
   ⟨"/users/\x7busername\x7d/documents", ["GET"],
    .template "selfOrRole" [("variable", .text "username"), ("role", .text "STAFF")]⟩,
   rule ["POST"] "/documents" "isFullyAuthenticated()",
   rule ["POST"] "/documents/delete" "isFullyAuthenticated()",
   rule ["PATCH"] "/documents/\x7bdocument_id\x7d" "isFullyAuthenticated()",
   rule ["DELETE"] "/documents/\x7bdocument_id\x7d"
    "isFullyAuthenticated() and (documentAccess.is_owner(authentication, document_id) or hasRole('ADMIN'))",
   rule ["GET", "POST"] "/internal/\x7banything\x7d"
    "hasIpAddress('127.0.0.1/32') or hasIpAddress('10.0.0.0/8')"]

/-- The policy of the site. An administrator is staff and a member of the staff is a user; whoever reads
audit reports must have been granted that. -/
def sitePolicy : Policy where
  hierarchy := [("ROLE_ADMIN", ["ROLE_STAFF"]), ("ROLE_STAFF", ["ROLE_USER"])]
  templates :=
    [("isStaff", "hasRole('STAFF')"),
     ("selfOrRole", "authentication.name == \x7bvariable\x7d or hasRole('\x7brole\x7d')")]
  permissions := [("AuditReport", [("read", ["audit:read", "ROLE_ADMIN"])])]
  routes := siteRules

/-- The policy at work: documents have their own evaluator and a bean that knows the owner. -/
def siteRulesAtWork : Except Failure (Rules Store) :=
  Rules.of sitePolicy [("Document", evaluator)] [("documentAccess", .object access)] send

end Documents

end AccessPolicy
