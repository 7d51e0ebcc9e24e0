import GrantKeeper.Schema
import GrantKeeper.Text.Quoted

/-!
# Names of members

A member is everybody (`allUsers`), every signed-in user
(`allAuthenticatedUsers`), or is named by a kind and an identifier with a colon
between them; later colons belong to the identifier.
-/

namespace GrantKeeper.Member

/-- The members that are not of the form `kind:identifier`, in order. -/
def special : List String := ["allAuthenticatedUsers", "allUsers"]

/-- The parts of a text before and after its first colon. -/
def split? (text : List Char) : Option (List Char × List Char) :=
  match text with
  | [] => none
  | c :: rest =>
      if c = ':' then some ([], rest)
      else (split? rest).map fun (kind, identifier) => (c :: kind, identifier)

/-- The text names a member. -/
def isValid (text : String) : Bool :=
  special.contains text ||
    match split? text.toList with
    | some (kind, identifier) => !kind.isEmpty && !identifier.isEmpty
    | none => false

/-- Why a text names no member. -/
def refusal (text : String) : String :=
  "member must look like '<type>:<id>' or be one of [" ++
    ", ".intercalate (special.map Text.quoted) ++ "], got " ++ Text.quoted text

/-- A text that names a member. -/
def check (value : Json) : Checked String :=
  match Check.nonemptyText value with
  | .ok s => if isValid s then .ok s else .refuse (.rule (refusal s))
  | .error issues => .error issues

theorem split?_eq_some_iff {text kind identifier : List Char} :
    split? text = some (kind, identifier) ↔
      text = kind ++ ':' :: identifier ∧ ':' ∉ kind := by
  induction text generalizing kind with
  | nil => simp [split?]
  | cons c rest ih =>
      by_cases h : c = ':'
      · subst h
        cases kind with
        | nil => simp [split?, eq_comm]
        | cons d ds =>
            simp only [split?, if_true, Option.some.injEq, Prod.mk.injEq,
              List.cons_append, List.cons.injEq, List.mem_cons, not_or]
            constructor
            · rintro ⟨h, _⟩; cases h
            · rintro ⟨⟨h, _⟩, h', _⟩; exact absurd h h'
      · cases kind with
        | nil => simp [split?, h]
        | cons d ds =>
            simp only [split?, h, if_false, Option.map_eq_some_iff, Prod.exists,
              Prod.mk.injEq, List.cons_append, List.cons.injEq,
              List.mem_cons, not_or]
            constructor
            · rintro ⟨k, i, hs, ⟨rfl, rfl⟩, rfl⟩
              exact ⟨⟨rfl, (ih.mp hs).1⟩, Ne.symm h, (ih.mp hs).2⟩
            · rintro ⟨⟨rfl, hr⟩, _, hk⟩
              exact ⟨ds, identifier, ih.mpr ⟨hr, hk⟩, ⟨rfl, rfl⟩, rfl⟩

end GrantKeeper.Member
