/-!
# Settings

The seven values an operator can configure, with their defaults.  In files and
variables they are grouped in five sections: `network`, `contract`,
`accounts`, `fees` and `observability`.
-/

namespace TwoStep

/-- What an operator can configure. -/
structure Settings where
  rpcUrl : String := "http://127.0.0.1:8545"
  contractAddress : String := "0xdc64a140aa3e981100a9beca4e685f962f0cf6c9"
  currentOwnerKeyVar : String := "CURRENT_OWNER_PRIVATE_KEY"
  newOwnerKeyVar : String := "NEW_OWNER_PRIVATE_KEY"
  priorityFee : String := "100 gwei"
  logLevel : String := "info"
  jsonLogs : Bool := true
  deriving DecidableEq, Repr

namespace Settings

/-- The file that is read when none is named. -/
def defaultFile : String := "ownership-handoff.toml"

end Settings

end TwoStep
