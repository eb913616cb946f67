import RunLog.Client
import RunLog.Settings

/-!
# Checking a setup

Before anything is retrieved, the configured backend can be asked whether it answers.  A faulty
configuration is an outcome of the check like a backend that does not answer.  The connection that
is made for the check is closed after it.
-/

namespace RunLog
namespace SetupCheck

/-- What comes of checking a setup. -/
structure Result (ω : Type) where
  /-- The outcome, or a failure that is neither of configuration nor of reaching the backend. -/
  verdict : Except Failure Client.Verdict
  /-- What is to be warned of. -/
  warnings : List Text
  /-- The connection that was made, if any, as the check leaves it. -/
  connection : Option Connection
  /-- The world afterwards. -/
  world : ω

/-- The outcome for a faulty configuration. -/
def misconfigured (failure : Failure) : Client.Verdict :=
  ⟨false, "Invalid Loki configuration: " ++ failure.detail⟩

/-- Check the backend at a connection, which is closed afterwards. -/
def checkConnection {ω : Type} (sender : Sender ω) (service : Service) (connection : Connection)
    (world : ω) : Result ω :=
  let client : Client := ⟨connection, service, Settings.standardPageSize⟩
  let checked := client.check sender world
  let warnings := connection.warnings ++ checked.warnings
  match checked.client.connection.close with
  | .ok connection => ⟨checked.verdict, warnings, some connection, checked.world⟩
  | .error failure =>
    ⟨.error failure, warnings, some checked.client.connection, checked.world⟩

/-- Check the backend that is configured, if the settings could be read. -/
def check {ω : Type} (sender : Sender ω) (settings : Except Failure Settings) (world : ω) :
    Result ω :=
  match settings with
  | .error failure =>
    ⟨if failure.isConfiguration then .ok (misconfigured failure) else .error failure, [], none,
      world⟩
  | .ok settings =>
    match settings.connection with
    | .error failure =>
      ⟨if failure.isConfiguration then .ok (misconfigured failure) else .error failure, [], none,
        world⟩
    | .ok connection =>
      checkConnection sender ⟨settings.serviceName, settings.serviceNamespace⟩ connection world

end SetupCheck
end RunLog
