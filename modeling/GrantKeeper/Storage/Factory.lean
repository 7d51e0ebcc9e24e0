import GrantKeeper.Storage.Client

/-!
# Connectors by name

A connector is asked for by the kind of the resource and the provider that keeps
it.  Both have to be known before the configuration is looked at, and that has
to be good before the settings are.
-/

namespace GrantKeeper

namespace Connector

/-- The providers, each with the kinds of resources it keeps. -/
def kinds : List (String × List String) := [("gcp", ["bucket_policy_member"])]

/-- The kinds that a provider keeps. -/
def kindsOf? (provider : Json) : Option (List String) :=
  (kinds.find? fun (name, _) => provider.same (.str name)).map Prod.snd

/-- The logger that is used when none is asked for. -/
def standardLogger : String := "policybind"

/-- The connector for a kind of resource at a provider. -/
def forKind (env : Environment) (kind provider config settings : Json)
    (logger : String) : Outcome (Connector Float) := do
  if !provider.isKey then throw (.malformed .notAKey)
  match kindsOf? provider with
  | none => throw (.value ("Unsupported cloud provider: " ++ provider.shown))
  | some known =>
      if !kind.isKey then throw (.malformed .notAKey)
      if known.any fun name => kind.same (.str name) then
        let account ← Account.forProvider env provider config
        let checked ← Settings.ofJson env (settings.orElse (.obj []))
        return ⟨account, checked.callTimeout, logger⟩
      else
        throw (.value
          ("Unsupported kind '" ++ kind.shown ++ "' for provider '" ++
            provider.shown ++ "'"))

end Connector

end GrantKeeper
