import GrantKeeper.Policy.Basic
import GrantKeeper.Resource.Condition
import GrantKeeper.Resource.Member

/-!
# Managed resources

A resource declares that a member should hold a role on a bucket, carries the
conditions of its status, and may ask for its own removal.  It is checked when
it is made.  Later assignments are not checked, so any slot but the innermost
may come to hold a raw value, and then the resource declares nothing any more.
Names that begin with an underscore stand outside these rules: most of them are
written and never read, but one of them writes all fields of a model at once.

Main definitions:

* `Resource.ofJson`: makes a resource from its fields;
* `Resource.binding`: the binding it declares;
* `Resource.conditions`: the conditions it has;
* `Resource.assign`: writes a value into a slot.
-/

namespace GrantKeeper

/-- A place that held a checked value when it was made, but takes any value
later. -/
inductive Slot (α : Type) where
  | valid (a : α)
  | raw (value : Json)
  /-- The model is in its place, but its fields were all replaced at once. -/
  | replaced (fields : Fields)
deriving Repr, Inhabited

namespace Slot

/-- The checked value; in all else there is none to look at. -/
def value {α : Type} : Slot α → Except Malformed α
  | .valid a => .ok a
  | .raw _ => .error .noFields
  | .replaced _ => .error .noFields

end Slot

/-- The binding that a resource asks for; it never changes. -/
structure Parameters where
  bucket : String
  role : String
  member : String
deriving DecidableEq, Repr, Inhabited

/-- What a resource asks for. -/
structure Spec where
  forProvider : Slot Parameters
deriving Repr, Inhabited

/-- What is known of a resource. -/
structure Status where
  conditions : Slot Conditions
deriving Repr, Inhabited

/-- The declared membership of one member. -/
structure Resource where
  name : Json
  spec : Slot Spec
  status : Slot Status
  deletionRequested : Json
deriving Repr, Inhabited

namespace Parameters

/-- The name of the model. -/
def model : String := "BucketPolicyMemberParameters"

/-- Parameters described by fields. -/
def check (fields : Fields) : Checked Parameters := do
  let ((bucket, role, member), _) ←
    ((Check.required fields "bucket" Check.nonemptyText).both <|
      (Check.required fields "role" Check.nonemptyText).both <|
      Check.required fields "member" Member.check).both <|
    Check.noOthers ["bucket", "role", "member"] fields
  return { bucket, role, member }

end Parameters

namespace Spec

/-- The name of the model. -/
def model : String := "BucketPolicyMemberSpec"

/-- A specification described by fields. -/
def check (fields : Fields) : Checked Spec := do
  let parameters ←
    Check.required fields "for_provider"
    (Check.object Parameters.model Parameters.check)
  return ⟨.valid parameters⟩

end Spec

namespace Status

/-- The name of the model. -/
def model : String := "ResourceStatus"

/-- The status of a new resource. -/
def empty : Status := ⟨.valid []⟩

/-- A status described by fields. -/
def check (now : Time.Timestamp) (fields : Fields) : Checked Status := do
  let conditions ← Check.optional fields "conditions" []
    (Check.list (Check.object "Condition" (Condition.check now)))
  return ⟨.valid conditions⟩

/-- The conditions that the fields of a status describe. -/
def conditionValues (fields : Fields) : List Json :=
  match fields.get "conditions" with
  | .arr values => values
  | _ => []

/-- A status described by fields; `now` is what the clock shows. -/
def ofFields (now : Outcome Time.Timestamp) (fields : Fields) :
    Outcome Status := do
  let now ← Condition.timeFor (conditionValues fields) now
  Outcome.ofModel ((check now fields).report model)

end Status

namespace Resource

/-- The name of the model. -/
def model : String := "BucketPolicyMember"

/-- A resource described by fields; `now` is the time of conditions that give
none. -/
def check (now : Time.Timestamp) (fields : Fields) : Checked Resource := do
  let (name, spec, status, deletion) ←
    (Check.required fields "name" Check.text).both <|
    (Check.required fields "spec" (Check.object Spec.model Spec.check)).both <|
    (Check.optional fields "status" Status.empty
      (Check.object Status.model (Status.check now))).both <|
    Check.optional fields "deletion_requested" false Check.boolean
  return {
    name := .str name
    spec := .valid spec
    status := .valid status
    deletionRequested := .bool deletion }

/-- A resource described by fields, or the report of what is wrong with them. -/
def ofFields (now : Time.Timestamp) (fields : Fields) :
    Except Report Resource :=
  (check now fields).report model

/-- A resource described by fields; `now` is what the clock shows, if some
condition needs it. -/
def make (now : Outcome Time.Timestamp) (fields : Fields) :
    Outcome Resource := do
  let values := match fields.get "status" with
    | .obj status => Status.conditionValues status
    | _ => []
  Outcome.ofModel (ofFields (← Condition.timeFor values now) fields)

/-- The resource that declares a binding. -/
def declaring (name : String) (p : Parameters) (deletion : Bool) :
    Resource where
  name := .str name
  spec := .valid ⟨.valid p⟩
  status := .valid .empty
  deletionRequested := .bool deletion

/-- The values that a resource declares for bucket, role and member, unless one
of its slots has become raw. -/
def declared (r : Resource) : Except Malformed (Json × Json × Json) := do
  let spec ← r.spec.value
  match spec.forProvider with
  | .valid p => return (.str p.bucket, .str p.role, .str p.member)
  | .raw _ => throw .noFields
  | .replaced fields =>
      match fields.lookup "bucket", fields.lookup "role",
        fields.lookup "member" with
      | some bucket, some role, some member => return (bucket, role, member)
      | _, _, _ => throw .noFields

/-- The binding that a resource declares, unless one of its slots has become
raw. -/
def binding (r : Resource) : Except Malformed Binding := do
  match ← r.declared with
  | (.str bucket, .str role, .str member) => return ⟨bucket, role, member⟩
  | _ => throw .notAText

/-- What is found in a raw value in place of conditions: it is walked through
like any other, and nothing in it is a condition, but null stands for none. -/
def rawConditions (value : Json) :
    Except Malformed (List (Option Condition)) := do
  (← value.elements).mapM fun
    | .null => .ok none
    | _ => .error .noFields

/-- The conditions of a resource, and the places where there is none. -/
def conditionPlaces (r : Resource) :
    Except Malformed (List (Option Condition)) :=
  match r.status with
  | .valid ⟨.valid conditions⟩ => .ok (conditions.map some)
  | .valid ⟨.raw value⟩ => rawConditions value
  | .replaced fields =>
      match fields.lookup "conditions" with
      | some value => rawConditions value
      | none => .error .noFields
  | _ => .error .noFields

/-- The conditions of a resource. -/
def conditions (r : Resource) : Except Malformed Conditions := do
  return (← r.conditionPlaces).filterMap id

/-- Sets conditions; a status that has become raw stays as it is. -/
def setConditions (r : Resource) (news : List Condition) : Resource :=
  match r.status with
  | .valid ⟨.valid conditions⟩ =>
      { r with status := .valid ⟨.valid (conditions.setAll news)⟩ }
  | _ => r

/-- The resource asks for its removal. -/
def wantsRemoval (r : Resource) : Bool := r.deletionRequested.truthy

/-! ## Assignment -/

/-- Why an assignment fails. -/
inductive AssignmentError where
  /-- Parameters never change. -/
  | frozen (field : String)
  /-- The model has no such field. -/
  | noField (model field : String)
  /-- The path leads to no slot. -/
  | noSlot
  /-- The slot takes values of another kind. -/
  | wrongKind
  /-- The path has no steps. -/
  | noPath
deriving DecidableEq, Repr

/-- The name stands outside the rules for fields. -/
def isHidden (field : String) : Bool := field.toList.head? == some '_'

/-- The hidden name for what a value is, which does not change. -/
def kindName : String := "__class__"

/-- The hidden name for all fields of a model. -/
def fieldsName : String := "__dict__"

/-- Names that cannot be written, though they are no fields. -/
def reserved : List String := ["model_extra", "model_fields_set"]

/-- Hidden names that cannot be written. -/
def hiddenReserved : List String :=
  ["__fields_set__", "__weakref__", "__class_vars__", "__private_attributes__",
    "__signature__"]

/-- Hidden names with one more word and one of these ends cannot be written
either. -/
def hiddenReservedEnds : List String :=
  ["_complete__", "_core_schema__", "_custom_init__", "_decorators__",
    "_generic_metadata__", "_parent_namespace__", "_post_init__",
    "_root_model__", "_serializer__", "_validator__",
    "_fields__", "_computed_fields__", "_setattr_handlers__"]

/-- The hidden name cannot be written. -/
def isHiddenReserved (field : String) : Bool :=
  hiddenReserved.contains field ||
    match field.toList with
    | '_' :: '_' :: rest =>
        hiddenReservedEnds.any fun ending => ending.toList.isSuffixOf rest
    | _ => false

/-- Writes a hidden name of a model: gives the fields that replace all others,
if it does so. -/
def assignHidden (field : String) (value : Json) :
    Except AssignmentError (Option Fields) :=
  if field = kindName then .error .wrongKind
  else if field = fieldsName then
    match value with
    | .obj fields => .ok (some fields)
    | _ => .error .wrongKind
  else if isHiddenReserved field then .error .noSlot
  else .ok none

/-- Why a field that a model does not declare is not written. -/
def undeclared (model field : String) : AssignmentError :=
  if reserved.contains field then .noSlot else .noField model field

/-- Why nothing is written into a value without slots. -/
def beyond (path : List String) : AssignmentError :=
  if path = [kindName] then .wrongKind else .noSlot

/-- Writes a field that a model does not declare, but that may be hidden. -/
def assignOther {α : Type} (refusal : AssignmentError) (slot : Slot α)
    (value : Json) (field : String) : Except AssignmentError (Slot α) :=
  if isHidden field then
    (assignHidden field value).map fun fields? =>
      (fields?.map Slot.replaced).getD slot
  else .error refusal

/-- Writes into parameters, which fails. -/
def assignParameters (slot : Slot Parameters) (value : Json)
    (path : List String) : Except AssignmentError (Slot Parameters) :=
  match slot, path with
  | .raw _, path => .error (beyond path)
  | slot, [field] => assignOther (.frozen field) slot value field
  | .valid _, field :: rest =>
      .error
        (if ["bucket", "role", "member"].contains field then beyond rest
          else .noSlot)
  | .replaced fields, field :: rest =>
      .error (if Fields.has fields field then beyond rest else .noSlot)
  | _, [] => .error .noPath

/-- Writes into a specification. -/
def assignSpec (slot : Slot Spec) (value : Json) (path : List String) :
    Except AssignmentError (Slot Spec) :=
  match slot, path with
  | .raw _, path => .error (beyond path)
  | .valid _, ["for_provider"] => .ok (.valid ⟨.raw value⟩)
  | .replaced fields, ["for_provider"] =>
      .ok (.replaced (Fields.put fields "for_provider" value))
  | slot, [field] => assignOther (undeclared Spec.model field) slot value field
  | .valid spec, "for_provider" :: rest => do
      return .valid ⟨← assignParameters spec.forProvider value rest⟩
  | .replaced fields, field :: rest =>
      .error (if Fields.has fields field then beyond rest else .noSlot)
  | _, _ => .error .noSlot

/-- Writes into a status. -/
def assignStatus (slot : Slot Status) (value : Json) (path : List String) :
    Except AssignmentError (Slot Status) :=
  match slot, path with
  | .raw _, path => .error (beyond path)
  | .valid _, ["conditions"] => .ok (.valid ⟨.raw value⟩)
  | .replaced fields, ["conditions"] =>
      .ok (.replaced (Fields.put fields "conditions" value))
  | slot, [field] =>
      assignOther (undeclared Status.model field) slot value field
  | .valid _, "conditions" :: rest => .error (beyond rest)
  | .replaced fields, field :: rest =>
      .error (if Fields.has fields field then beyond rest else .noSlot)
  | _, _ => .error .noSlot

/-- The resource with all its fields replaced, after which nothing of it is
checked any more. -/
def replacedBy (fields : Fields) : Resource where
  name := fields.get "name"
  spec := .raw (fields.get "spec")
  status := .raw (fields.get "status")
  deletionRequested := fields.get "deletion_requested"

/-- Writes a value into the slot that a path of field names leads to. -/
def assign (r : Resource) (value : Json) :
    List String → Except AssignmentError Resource
  | [] => .error .noPath
  | ["name"] => .ok { r with name := value }
  | ["spec"] => .ok { r with spec := .raw value }
  | ["status"] => .ok { r with status := .raw value }
  | ["deletion_requested"] => .ok { r with deletionRequested := value }
  | [field] =>
      if isHidden field then
        (assignHidden field value).map fun fields? =>
          (fields?.map replacedBy).getD r
      else .error (undeclared model field)
  | "spec" :: rest =>
      do return { r with spec := ← assignSpec r.spec value rest }
  | "status" :: rest =>
      do return { r with status := ← assignStatus r.status value rest }
  | "name" :: rest => .error (beyond rest)
  | "deletion_requested" :: rest => .error (beyond rest)
  | _ => .error .noSlot

@[simp] theorem binding_declaring (name : String) (p : Parameters)
    (deletion : Bool) :
    (declaring name p deletion).binding = .ok ⟨p.bucket, p.role, p.member⟩ :=
  rfl

@[simp] theorem binding_setConditions (r : Resource) (news : List Condition) :
    (r.setConditions news).binding = r.binding := by
  unfold setConditions; split <;> rfl

@[simp] theorem wantsRemoval_setConditions (r : Resource)
    (news : List Condition) :
    (r.setConditions news).wantsRemoval = r.wantsRemoval := by
  unfold setConditions; split <;> rfl

end Resource

end GrantKeeper
