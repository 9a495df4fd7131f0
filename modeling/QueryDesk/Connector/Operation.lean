import QueryDesk.Schema.Snapshot
import QueryDesk.Session.Basic

/-!
# Operations of a connector

What can be asked of a connection to a server, whatever its dialect, and what comes of it.
-/

namespace QueryDesk

inductive ConnectorOperation where
  | inspect
  | execute (query : Query)
  | check
  | close
deriving DecidableEq

inductive ConnectorResult where
  | inspected (result : Except Failure (List Snapshot))
  | executed (result : Except Failure Outcome)
  | checked (result : Except Failure Unit)
  | closed (result : Except Failure Unit)

end QueryDesk
