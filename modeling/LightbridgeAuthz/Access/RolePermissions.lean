import LightbridgeAuthz.Access.RpcGates
import LightbridgeAuthz.Library.SpacedWords
import LightbridgeAuthz.Sessions.TokenGrants
import Mathlib.Data.Finset.Lattice.Fold
import Mathlib.Data.List.TakeWhile

/-!
# From a roles claim to permissions

The roles claim of a token is an array of strings or one string of words. The
configuration maps roles to grant strings; a grant string is a permission's name,
a resource wildcard or `*`. The mapping is compiled once into sets of permissions,
and the caller holds the union of the sets of its roles, where a role that is not
configured has the default set.
-/

namespace LightbridgeAuthz.Access.RolePermissions

open Budget.Domain (isWhitespace)
open Library.KeyRenames (lookup_iff_of_nodup lookup_map_values)
open Library.SpacedWords (IsWord)
open ModelPolicies (Json)
open RpcGates (Permission permission_mem_all)
open Sessions.TokenGrants
  (trim splitWhitespace IsWordOf mem_split_whitespace split_whitespace_intercalate)

set_option autoImplicit false

abbrev PermissionSet := Finset Permission

/-- The resource half of the `resource:action` string: what `split(':')` yields
first. -/
def resource (permission : Permission) : String :=
  String.ofList (permission.asStr.toList.takeWhile (· != ':'))

def stripSuffix (text suffix : String) : Option String :=
  if suffix.toList <:+ text.toList then
    some (String.ofList (text.toList.take (text.toList.length - suffix.toList.length)))
  else none

def expandGrant (grant : String) : List Permission :=
  let grant := trim grant
  if grant = "" then []
  else if grant = "*" then Permission.all
  else match stripSuffix grant ":*" with
    | some stem => Permission.all.filter fun permission => resource permission = stem
    | none => Permission.all.filter fun permission => permission.asStr = grant

/-- The configuration under `oauth2.rbac`. The keys of a `HashMap` are distinct. -/
structure Rbac where
  rolePermissions : List (String × List String)
  distinctRoles : (rolePermissions.map Prod.fst).Nodup
  defaultGrants : List String

structure CompiledRbac where
  roles : List (String × PermissionSet)
  default : PermissionSet

def defaultRolePermissions : List (String × List String) :=
  [("lightbridge-admin", ["*"]),
    ("lightbridge-editor",
      ["account:create", "account:read", "project:*", "apikey:*", "session:revoke-own",
        "budget:read-own"]),
    ("lightbridge-viewer",
      ["account:create", "account:read", "project:read", "apikey:read", "session:revoke-own",
        "budget:read-own"])]

/-- The mapping that `compile` reads. -/
def Rbac.source (rbac : Rbac) : List (String × List String) :=
  if rbac.rolePermissions.isEmpty then defaultRolePermissions else rbac.rolePermissions

/-- The loop of `compile` over the grants of a role. -/
def expandGrants (grants : List String) : PermissionSet :=
  grants.foldl
    (fun set grant => (expandGrant grant).foldl (fun set permission => insert permission set) set) ∅

def Rbac.compile (rbac : Rbac) : CompiledRbac where
  roles := rbac.source.map fun entry => (entry.1, expandGrants entry.2)
  default := expandGrants rbac.defaultGrants

/-- `Rbac::validate`: every default grant names something. -/
def Rbac.validate (rbac : Rbac) : Except String Unit :=
  match rbac.defaultGrants.find? fun grant => (expandGrant grant).isEmpty with
  | some grant =>
      .error ("oauth2.rbac.default_grants contains an unrecognized grant: '" ++ grant ++ "'")
  | none => .ok ()

def permissionsForRoles (roles : List String) (compiled : CompiledRbac) : PermissionSet :=
  roles.foldl
    (fun set role =>
      match compiled.roles.lookup role with
      | some permissions => set ∪ permissions
      | none => set ∪ compiled.default) ∅

def asStr : Json → Option String
  | .string text => some text
  | _ => none

def rolesFromClaim : Option Json → List String
  | some (.array items) => items.filterMap asStr
  | some (.string text) => splitWhitespace text
  | _ => []

inductive Denotes (grant : String) (permission : Permission) : Prop where
  | everything (isStar : trim grant = "*")
  | ofResource {stem action : String} (isWildcard : trim grant = stem ++ ":*")
      (isResource : ':' ∉ stem.toList) (named : permission.asStr = stem ++ ":" ++ action)
  | name (isName : trim grant = permission.asStr)

inductive Names : Option Json → String → Prop where
  | item {items : List Json} {role : String} (member : Json.string role ∈ items) :
      Names (some (.array items)) role
  | word {text role : String} (isWord : IsWordOf role text) : Names (some (.string text)) role

/-- What a role confers: its own grants if it is configured, the default grants if
it is not. -/
inductive Confers (rbac : Rbac) (role : String) (permission : Permission) : Prop where
  | configured {grants : List String} {grant : String} (entry : (role, grants) ∈ rbac.source)
      (member : grant ∈ grants) (denotes : Denotes grant permission)
  | fallback {grant : String} (unknown : ∀ grants, (role, grants) ∉ rbac.source)
      (member : grant ∈ rbac.defaultGrants) (denotes : Denotes grant permission)

theorem strip_suffix_some {text suffix stem : String} :
    stripSuffix text suffix = some stem ↔ text = stem ++ suffix := by
  have stemOf : ∀ front, front ++ suffix.toList = text.toList →
      text.toList.take (text.toList.length - suffix.toList.length) = front := by
    intro front joined
    rw [← joined, List.length_append, Nat.add_sub_cancel, List.take_left']
    rfl
  unfold stripSuffix
  split_ifs with ends
  · obtain ⟨front, joined⟩ := ends
    rw [stemOf front joined, Option.some.injEq, ← String.toList_inj, ← String.toList_inj,
      String.toList_append, String.toList_ofList, ← joined, List.append_cancel_right_eq]
  · refine iff_of_false id fun isText => ends ?_
    rw [isText, String.toList_append]
    exact List.suffix_append _ _

theorem first_part_iff {text stem : List Char} {separator : Char} (contained : separator ∈ text) :
    text.takeWhile (· != separator) = stem ↔
      separator ∉ stem ∧ ∃ rest, text = stem ++ separator :: rest := by
  constructor
  · rintro rfl
    refine ⟨fun member => ?_, ?_⟩
    · simpa using List.mem_takeWhile_imp member
    · cases after : text.dropWhile (· != separator) with
      | nil =>
          have differs := List.dropWhile_eq_nil_iff.mp after separator contained
          simp at differs
      | cons head rest =>
          have stops := List.head?_dropWhile_not (· != separator) text
          rw [after] at stops
          have isHead : head = separator := by simpa using stops
          refine ⟨rest, ?_⟩
          rw [isHead] at after
          rw [← after, List.takeWhile_append_dropWhile]
  · rintro ⟨absent, rest, rfl⟩
    have differ : ∀ char ∈ stem, (char != separator) = true := fun char member =>
      bne_iff_ne.mpr fun same => absent (same ▸ member)
    rw [List.takeWhile_append_of_pos differ]
    simp

theorem as_str_plain (permission : Permission) :
    permission.asStr ≠ "" ∧ permission.asStr ≠ "*" ∧ stripSuffix permission.asStr ":*" = none ∧
      ':' ∈ permission.asStr.toList := by
  have checked : Permission.all.all (fun permission =>
      decide (permission.asStr ≠ "" ∧ permission.asStr ≠ "*" ∧
        stripSuffix permission.asStr ":*" = none ∧ ':' ∈ permission.asStr.toList)) = true := by
    decide +kernel
  exact of_decide_eq_true (List.all_eq_true.mp checked permission (permission_mem_all permission))

theorem resource_iff {permission : Permission} {stem : String} :
    resource permission = stem ↔
      ':' ∉ stem.toList ∧ ∃ action, permission.asStr = stem ++ ":" ++ action := by
  rw [resource, ← String.toList_inj, String.toList_ofList,
    first_part_iff (as_str_plain permission).2.2.2]
  refine and_congr_right fun _ => ⟨?_, ?_⟩
  · rintro ⟨rest, isText⟩
    refine ⟨String.ofList rest, String.toList_inj.mp ?_⟩
    simp only [isText, String.toList_append, String.toList_ofList]
    exact List.append_cons stem.toList ':' rest
  · rintro ⟨action, named⟩
    refine ⟨action.toList, ?_⟩
    rw [named, String.toList_append, String.toList_append]
    exact (List.append_cons stem.toList ':' action.toList).symm

theorem denotes_wildcard {grant stem : String} {permission : Permission}
    (isWildcard : stripSuffix (trim grant) ":*" = some stem) (notStar : trim grant ≠ "*") :
    Denotes grant permission ↔ resource permission = stem := by
  have isGrant := strip_suffix_some.mp isWildcard
  constructor
  · rintro (isStar | ⟨isOther, isResource, named⟩ | isName)
    · exact absurd isStar notStar
    · rw [strip_suffix_some.mpr isOther, Option.some.injEq] at isWildcard
      subst isWildcard
      exact resource_iff.mpr ⟨isResource, _, named⟩
    · rw [isName, (as_str_plain permission).2.2.1] at isWildcard
      cases isWildcard
  · intro isResource
    obtain ⟨plain, action, named⟩ := resource_iff.mp isResource
    exact .ofResource isGrant plain named

theorem denotes_name {grant : String} {permission : Permission}
    (notWildcard : stripSuffix (trim grant) ":*" = none) (notStar : trim grant ≠ "*") :
    Denotes grant permission ↔ permission.asStr = trim grant := by
  constructor
  · rintro (isStar | ⟨isWildcard, -, -⟩ | isName)
    · exact absurd isStar notStar
    · rw [strip_suffix_some.mpr isWildcard] at notWildcard
      cases notWildcard
    · exact isName.symm
  · exact fun isName => .name isName.symm

theorem mem_expand_grant {grant : String} {permission : Permission} :
    permission ∈ expandGrant grant ↔ Denotes grant permission := by
  unfold expandGrant
  dsimp only
  split_ifs with isEmpty isStar
  · have notStar : trim grant ≠ "*" := by
      rw [isEmpty]
      decide
    have notWildcard : stripSuffix (trim grant) ":*" = none := by
      rw [isEmpty]
      decide
    rw [denotes_name notWildcard notStar, isEmpty]
    exact iff_of_false List.not_mem_nil (as_str_plain permission).1
  · exact iff_of_true (permission_mem_all permission) (.everything isStar)
  · split
    · rename_i stem isWildcard
      rw [denotes_wildcard isWildcard isStar, List.mem_filter, decide_eq_true_eq]
      exact and_iff_right (permission_mem_all permission)
    · rename_i notWildcard
      rw [denotes_name notWildcard isStar, List.mem_filter, decide_eq_true_eq]
      exact and_iff_right (permission_mem_all permission)

theorem mem_fold {Source : Type*} {permission : Permission}
    {add : PermissionSet → Source → PermissionSet} {gives : Source → Prop}
    (adds : ∀ set source, permission ∈ add set source ↔ gives source ∨ permission ∈ set)
    (sources : List Source) (set : PermissionSet) :
    permission ∈ sources.foldl add set ↔
      (∃ source ∈ sources, gives source) ∨ permission ∈ set := by
  induction sources generalizing set with
  | nil => simp
  | cons first rest ih =>
      rw [List.foldl_cons, ih, adds]
      simp only [List.mem_cons, exists_eq_or_imp, or_assoc]
      exact or_left_comm

theorem mem_expand_grants {grants : List String} {permission : Permission} :
    permission ∈ expandGrants grants ↔ ∃ grant ∈ grants, Denotes grant permission := by
  have inserts : ∀ (set : PermissionSet) (added : Permission),
      permission ∈ insert added set ↔ added = permission ∨ permission ∈ set := by
    intro set added
    rw [Finset.mem_insert, eq_comm]
  have expands : ∀ (set : PermissionSet) (grant : String),
      permission ∈ (expandGrant grant).foldl (fun set added => insert added set) set ↔
        Denotes grant permission ∨ permission ∈ set := by
    intro set grant
    rw [mem_fold inserts, exists_eq_right, mem_expand_grant]
  unfold expandGrants
  rw [mem_fold expands]
  exact or_iff_left (Finset.notMem_empty permission)

/-- What `compiled` gives to a role. -/
def rolePermissions (compiled : CompiledRbac) (role : String) : PermissionSet :=
  (compiled.roles.lookup role).getD compiled.default

theorem mem_permissions_for_roles {roles : List String} {compiled : CompiledRbac}
    {permission : Permission} :
    permission ∈ permissionsForRoles roles compiled ↔
      ∃ role ∈ roles, permission ∈ rolePermissions compiled role := by
  have unites : ∀ (set : PermissionSet) (role : String),
      (permission ∈ match compiled.roles.lookup role with
        | some permissions => set ∪ permissions
        | none => set ∪ compiled.default) ↔
        permission ∈ rolePermissions compiled role ∨ permission ∈ set := by
    intro set role
    rw [rolePermissions]
    cases compiled.roles.lookup role with
    | some permissions => rw [Finset.mem_union, or_comm, Option.getD_some]
    | none => rw [Finset.mem_union, or_comm, Option.getD_none]
  unfold permissionsForRoles
  rw [mem_fold unites]
  exact or_iff_left (Finset.notMem_empty permission)

theorem source_distinct (rbac : Rbac) : (rbac.source.map Prod.fst).Nodup := by
  unfold Rbac.source
  split
  · decide
  · exact rbac.distinctRoles

theorem mem_role_permissions {rbac : Rbac} {role : String} {permission : Permission} :
    permission ∈ rolePermissions rbac.compile role ↔ Confers rbac role permission := by
  have compiled : rbac.compile.roles.lookup role = (rbac.source.lookup role).map expandGrants :=
    lookup_map_values expandGrants role rbac.source
  have entries := lookup_iff_of_nodup (source_distinct rbac) role
  rw [rolePermissions, compiled]
  cases found : rbac.source.lookup role with
  | some grants =>
      have entry := (entries grants).mp found
      rw [Option.map_some, Option.getD_some, mem_expand_grants]
      constructor
      · rintro ⟨grant, member, denotes⟩
        exact .configured entry member denotes
      · rintro (⟨other, member, denotes⟩ | ⟨unknown, -, -⟩)
        · rw [(entries _).mpr other, Option.some.injEq] at found
          subst found
          exact ⟨_, member, denotes⟩
        · exact absurd entry (unknown grants)
  | none =>
      have unknown : ∀ grants, (role, grants) ∉ rbac.source := by
        intro grants entry
        rw [(entries grants).mpr entry] at found
        cases found
      rw [Option.map_none, Option.getD_none]
      constructor
      · intro held
        obtain ⟨grant, member, denotes⟩ := mem_expand_grants.mp held
        exact .fallback unknown member denotes
      · rintro (⟨entry, -, -⟩ | ⟨-, member, denotes⟩)
        · exact absurd entry (unknown _)
        · exact mem_expand_grants.mpr ⟨_, member, denotes⟩

theorem mem_roles_from_claim {claim : Option Json} {role : String} :
    role ∈ rolesFromClaim claim ↔ Names claim role := by
  constructor
  · intro member
    unfold rolesFromClaim at member
    split at member
    · rename_i items
      obtain ⟨item, isItem, isText⟩ := List.mem_filterMap.mp member
      cases item with
      | string text =>
          obtain rfl := Option.some.inj isText
          exact .item isItem
      | _ => cases isText
    · exact .word (mem_split_whitespace.mp member)
    · cases member
  · rintro (member | isWord)
    · exact List.mem_filterMap.mpr ⟨_, member, rfl⟩
    · exact mem_split_whitespace.mpr isWord

theorem expand_grant_empty {grant : String} :
    (expandGrant grant).isEmpty = true ↔ ∀ permission, ¬ Denotes grant permission := by
  rw [List.isEmpty_iff, List.eq_nil_iff_forall_not_mem]
  exact forall_congr' fun permission => not_congr mem_expand_grant

theorem validate_ok_iff (rbac : Rbac) :
    rbac.validate = .ok () ↔
      ∀ grant ∈ rbac.defaultGrants, ∃ permission, Denotes grant permission := by
  have found : rbac.validate = .ok () ↔
      rbac.defaultGrants.find? (fun grant => (expandGrant grant).isEmpty) = none := by
    unfold Rbac.validate
    cases rbac.defaultGrants.find? (fun grant => (expandGrant grant).isEmpty) <;> simp
  rw [found, List.find?_eq_none]
  refine forall_congr' fun grant => forall_congr' fun _ => ?_
  rw [expand_grant_empty, not_forall]
  exact exists_congr fun permission => not_not

/-- The configuration without the grant strings that expand to nothing. -/
def Rbac.known (rbac : Rbac) : Rbac where
  rolePermissions := rbac.rolePermissions.map fun entry =>
    (entry.1, entry.2.filter fun grant => !(expandGrant grant).isEmpty)
  distinctRoles := by
    rw [List.map_map]
    exact rbac.distinctRoles
  defaultGrants := rbac.defaultGrants.filter fun grant => !(expandGrant grant).isEmpty

theorem expand_known (grants : List String) :
    expandGrants (grants.filter fun grant => !(expandGrant grant).isEmpty) =
      expandGrants grants := by
  apply Finset.ext
  intro permission
  rw [mem_expand_grants, mem_expand_grants]
  constructor
  · rintro ⟨grant, member, denotes⟩
    exact ⟨grant, (List.mem_filter.mp member).1, denotes⟩
  · rintro ⟨grant, member, denotes⟩
    refine ⟨grant, List.mem_filter.mpr ⟨member, ?_⟩, denotes⟩
    have expanded := List.ne_nil_of_mem (mem_expand_grant.mpr denotes)
    simpa using expanded

theorem known_role_permissions (rbac : Rbac) (role : String) :
    rolePermissions rbac.known.compile role = rolePermissions rbac.compile role := by
  have sources : (rbac.known.source.lookup role).map expandGrants =
      (rbac.source.lookup role).map expandGrants := by
    unfold Rbac.source Rbac.known
    dsimp only
    rw [List.isEmpty_map]
    split
    · rfl
    · rw [lookup_map_values, Option.map_map]
      exact congrFun (congrArg Option.map (funext expand_known)) _
  simp only [rolePermissions, Rbac.compile, lookup_map_values, sources]
  rw [Rbac.known, expand_known]

/-- What a roles claim is worth under a configuration. -/
structure RbacSemantics (rbac : Rbac) : Prop where
  exact : ∀ claim permission,
    permission ∈ permissionsForRoles (rolesFromClaim claim) rbac.compile ↔
      ∃ role, Names claim role ∧ Confers rbac role permission
  union : ∀ roles permission,
    permission ∈ permissionsForRoles roles rbac.compile ↔
      ∃ role ∈ roles, permission ∈ permissionsForRoles [role] rbac.compile
  unordered : ∀ left right : List String, (∀ role, role ∈ left ↔ role ∈ right) →
    permissionsForRoles left rbac.compile = permissionsForRoles right rbac.compile
  unknownIgnored : ∀ roles,
    permissionsForRoles roles rbac.known.compile = permissionsForRoles roles rbac.compile
  delimited : ∀ text items, (∀ role, Json.string role ∈ items ↔ IsWordOf role text) →
    permissionsForRoles (rolesFromClaim (some (.string text))) rbac.compile =
      permissionsForRoles (rolesFromClaim (some (.array items))) rbac.compile
  joined : ∀ words : List String, (∀ word ∈ words, IsWord isWhitespace word.toList) →
    rolesFromClaim (some (.string (" ".intercalate words))) =
      rolesFromClaim (some (.array (words.map .string)))

theorem same_roles {left right : List String} (compiled : CompiledRbac)
    (same : ∀ role, role ∈ left ↔ role ∈ right) :
    permissionsForRoles left compiled = permissionsForRoles right compiled := by
  apply Finset.ext
  intro permission
  rw [mem_permissions_for_roles, mem_permissions_for_roles]
  exact exists_congr fun role => and_congr_left fun _ => same role

/-- A caller holds exactly what the roles of its claim confer. -/
theorem rbac_semantics (rbac : Rbac) : RbacSemantics rbac where
  exact := by
    intro claim permission
    rw [mem_permissions_for_roles]
    exact exists_congr fun role => and_congr mem_roles_from_claim mem_role_permissions
  union := by
    intro roles permission
    simp only [mem_permissions_for_roles, List.mem_singleton, exists_eq_left]
  unordered := fun left right same => same_roles rbac.compile same
  unknownIgnored := by
    intro roles
    apply Finset.ext
    intro permission
    simp only [mem_permissions_for_roles, known_role_permissions]
  delimited := by
    intro text items same
    apply same_roles
    intro role
    rw [mem_roles_from_claim, mem_roles_from_claim]
    constructor
    · intro names
      cases names with
      | word isWord => exact .item ((same role).mpr isWord)
    · intro names
      cases names with
      | item member => exact .word ((same role).mp member)
  joined := by
    intro words areWords
    have strings : (words.map Json.string).filterMap asStr = words := by
      rw [List.filterMap_map]
      exact List.filterMap_some
    rw [rolesFromClaim, rolesFromClaim, split_whitespace_intercalate areWords, strings]

end LightbridgeAuthz.Access.RolePermissions
