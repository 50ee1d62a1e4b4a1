import WebhookPayload.Environment
import WebhookPayload.Text.Quoted

/-! What every payload generation of a process shares: the enabled plugins,
whether the public endpoint is secure, and how its host name is found. -/

namespace WebhookPayload

/-- The answers to the first, the second, … question for the public host name.
They need not agree, so it matters how often the question is put. -/
abbrev HostSource := Nat → String

structure Settings where
  plugins : List String
  secure : Bool
  host : HostSource

namespace Settings

def pluginsName : String := "WEBHOOK_PLUGINS"

def secureName : String := "WEBHOOK_ENABLE_SSL"

def hostName : String := "WEBHOOK_PUBLIC_HOST"

def defaultHost : String := "localhost"

def ofEnvironment (env : Environment) : Except SettingError Settings := do
  let secure ← env.flag secureName false
  return {
    plugins := env.list pluginsName []
    secure
    host := fun _ => env.getD hostName defaultHost }

def withHost (settings : Settings) (host : HostSource) : Settings := { settings with host }

/-- The settings as they appear in a log; how the host is found is left open. -/
def describe (settings : Settings) : String :=
  "PayloadSettings \x7b enabled_plugins: " ++ Text.quotedList settings.plugins ++
    ", enable_ssl: " ++ toString settings.secure ++ ", .. \x7d"

end Settings

end WebhookPayload
