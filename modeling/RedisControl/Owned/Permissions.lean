import RedisControl.Goal
import RedisControl.Owned.Labels
import RedisControl.SubResource.Basic

/-!
# Permissions of an instance

The pods of an instance run under a service account of their own. A role says what they may do,
and a binding grants the role to the account.

* `Redis.permissionObjects` : the three objects in the order in which they have to exist, each
  with the goal that tracks it.
-/

namespace RedisControl

/-- What the pods of an instance may do. -/
def policyRules : List PolicyRule :=
  [{ apiGroups := some ["security.openshift.io"], resourceNames := some ["anyuid"],
     resources := some ["securitycontextconstraints"], verbs := ["use"] },
   { apiGroups := some [""], resources := some ["pods"],
     verbs := ["create", "get", "list", "watch", "update", "patch", "delete"] }]

/-- An object of the three, with the goal that tracks it. -/
structure PermissionObject where
  resource : SubResource
  goal : Goal

namespace Redis

/-- The name of the service account. -/
def serviceAccountName (r : Redis) : String := r.rbacResourceName

/-- The name of the role. -/
def roleName (r : Redis) : String := r.rbacResourceName ++ "-role"

/-- The name of the binding. -/
def roleBindingName (r : Redis) : String := r.rbacResourceName ++ "-rolebinding"

/-- Service account, role and binding, in the order in which they have to exist. -/
def permissionObjects (r : Redis) (rules : List PolicyRule) :
    Except ControlError (List PermissionObject) := do
  let account ← r.ownedMetadata r.serviceAccountName
  let role ← r.ownedMetadata r.roleName
  let binding ← r.ownedMetadata r.roleBindingName
  let roleRef : RoleRef :=
    { apiGroup := "rbac.authorization.k8s.io", kind := "Role", name := r.roleName }
  let subject : Subject :=
    { kind := "ServiceAccount", name := r.serviceAccountName, ns := some (r.metadata.ns.getD "") }
  return [
    ⟨⟨account, .serviceAccount⟩, .serviceAccount⟩,
    ⟨⟨role, .role (some rules)⟩, .role⟩,
    ⟨⟨binding, .roleBinding roleRef (some [subject])⟩, .roleBinding⟩]

end Redis

end RedisControl
