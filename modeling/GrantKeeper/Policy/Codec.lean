import GrantKeeper.Policy.Basic

/-!
# Policies as the service writes them

The service sends a policy as an object whose `bindings` are entries of a role,
its members and perhaps a condition.  `Policy.decode` merges the unconditional
entries of a role and sets conditional ones aside as they are; `Policy.encode`
writes roles and members in order, so that a policy has one written form, and
leaves roles without members out.
-/

namespace GrantKeeper.Policy

/-- What has been read of the entries so far. -/
structure Reading where
  grants : Grants
  conditional : List Fields
deriving Inhabited

/-- Reads one entry.  What is no object, or names no role, is skipped. -/
def Reading.add (r : Reading) : Json → Except Malformed Reading
  | .obj fields =>
      let entry : Fields := fields
      let role := entry.get "role"
      if !role.truthy then .ok r
      else if (entry.get "condition").truthy then
        .ok { r with conditional := r.conditional ++ [entry] }
      else do
        if !role.isKey then throw .notAKey
        let new ← ((entry.get "members").orElse (.arr [])).elements
        let members ← Keys.insertAll (r.grants.members role) new
        return { r with grants := r.grants.put role members }
  | _ => .ok r

/-- Reads entries in order. -/
def Reading.addAll (r : Reading) : List Json → Except Malformed Reading
  | [] => .ok r
  | entry :: rest => do (← r.add entry).addAll rest

/-- The policy that a value from the service describes.  A falsy value is an
empty policy. -/
def decode (value : Json) : Except Malformed Policy := do
  let fields ← (value.orElse (.obj [])).fields
  let entries ← ((fields.get "bindings").orElse (.arr [])).elements
  let reading ← (Reading.mk [] []).addAll entries
  return {
    etag := fields.get "etag"
    version := fields.get "version"
    grants? := some (reading.grants.filter fun entry => !entry.2.isEmpty)
    conditional := reading.conditional }

/-- The written entry of a role. -/
def encodeEntry (entry : Json × Keys) : Except Malformed Json := do
  return .obj [("role", entry.1), ("members", .arr (← Json.sort entry.2))]

/-- The written entries of the roles that have members, in the order given. -/
def encodeEntries : Grants → Except Malformed (List Json)
  | [] => .ok []
  | entry :: rest =>
      if entry.2.isEmpty then encodeEntries rest
      else do return (← encodeEntry entry) :: (← encodeEntries rest)

/-- A field that is left out when it would be null. -/
def optionalField (name : String) (value : Json) : Fields :=
  match value with
  | .null => []
  | value => [(name, value)]

/-- A field that is left out when its array would be empty. -/
def arrayField (name : String) (items : List Json) : Fields :=
  if items.isEmpty then [] else [(name, .arr items)]

/-- The policy as a value for the service. -/
def encode (d : Policy) : Except Malformed Json := do
  let ordered ← match Json.sortedBy? Prod.fst d.grants with
    | some ordered => pure ordered
    | none => throw .notComparable
  let entries ← encodeEntries ordered
  return .obj (optionalField "etag" d.etag ++
    optionalField "version" d.version ++
    arrayField "bindings" (entries ++ d.conditional.map .obj))

end GrantKeeper.Policy
