import GrantKeeper.Policy.Basic
import GrantKeeper.Policy.Codec

/-!
# Policies in transit

Between the service and the client a policy is a list of entries whose members
are sets.  Reading one is stricter than `Policy.decode`: every entry has to be
an object.  Writing one keeps role, members and a condition of every entry that
has members, drops all else, and puts the entries in the order of their roles;
entries of one role keep their order.
-/

namespace GrantKeeper

/-- An entry in transit: its fields and the set of its members. -/
structure WireEntry where
  fields : Fields
  members : Keys
deriving Repr, Inhabited

/-- A policy in transit. -/
structure WirePolicy where
  etag : Json
  version : Json
  entries : List WireEntry
deriving Repr, Inhabited

namespace WireEntry

/-- Reads an entry; without a field for members it has none. -/
def decode (value : Json) : Except Malformed WireEntry := do
  let fields ← value.fields
  let members ← ((fields.lookup "members").getD (.arr [])).elements
  return ⟨fields, ← Keys.insertAll [] members⟩

/-- Reads entries in order. -/
def decodeAll : List Json → Except Malformed (List WireEntry)
  | [] => .ok []
  | value :: rest => do return (← decode value) :: (← decodeAll rest)

/-- The written form of an entry. -/
def encode (entry : WireEntry) : Except Malformed Fields := do
  let role ← match entry.fields.lookup "role" with
    | some role => pure role
    | none => throw (.missingField "role")
  let members ← Json.sort entry.members
  let condition := entry.fields.get "condition"
  return [("role", role), ("members", .arr members)] ++
    (if condition.truthy then [("condition", condition)] else [])

/-- The written forms of the entries that have members. -/
def encodeAll : List WireEntry → Except Malformed (List Fields)
  | [] => .ok []
  | entry :: rest =>
      if entry.members.isEmpty then encodeAll rest
      else do return (← encode entry) :: (← encodeAll rest)

end WireEntry

namespace WirePolicy

/-- Reads what the service sends. -/
def decode (value : Json) : Except Malformed WirePolicy := do
  let fields ← value.fields
  let entries ← ((fields.lookup "bindings").getD (.arr [])).elements
  return ⟨fields.get "etag", fields.get "version",
    ← WireEntry.decodeAll entries⟩

/-- Writes what the service gets. -/
def encode (policy : WirePolicy) : Except Malformed Json := do
  let entries ← WireEntry.encodeAll policy.entries
  match Json.sortedBy? (fun entry => Fields.get entry "role") entries with
  | none => throw .notComparable
  | some ordered =>
      return .obj (Policy.optionalField "etag" policy.etag ++
        Policy.optionalField "version" policy.version ++
        Policy.arrayField "bindings" (ordered.map .obj))

end WirePolicy

end GrantKeeper
