/-
  Admission.Server — the server that settings ask for.

  A server is a gate, the policy of its refusals and the site behind it.  Settings that pass their
  checks always make a server; those that do not are a failure of the configuration.
-/
import Admission.Config.Settings
import Admission.Session.Basic

namespace Admission

/-- What a server is made of before it listens. -/
structure Server where
  gate : Gate
  policy : Policy
  site : Session.Site
  bindAddress : String
  /-- The interval of reports to the recorder; a second at least. -/
  statsInterval : Duration

namespace Server

/-- The gate of options, with the policy of its refusals. -/
def throttleOf (o : Options) : Except OptionsError (Gate × Policy) :=
  match Gate.ofOptions o with
  | .error e => .error e
  | .ok gate => .ok (gate, .ofOptions o)

/-- The server of settings, or what is wrong with them. -/
def ofSettings (s : Config.Settings) : Except Failure Server :=
  match s.gate.toOptions with
  | .error e => .error (.ofOptions e)
  | .ok o =>
    match throttleOf o with
    | .error e => .error (.ofOptions e)
    | .ok (gate, policy) =>
      .ok
        { gate, policy
          site := ⟨s.workDelay, s.requestTimeout⟩
          bindAddress := s.bindAddress
          statsInterval := .ofSecs (max s.statsIntervalSecs.toNat 1) }

/-- A session over a server, at the start of the clock. -/
def openSession (s : Server) (metrics : Option Metrics) : Session :=
  Session.ofGate s.gate s.policy s.site metrics

end Server

end Admission
