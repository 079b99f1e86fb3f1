import VelaFlow.Security.LedgerEntries

/-!
# What the ledger detects

One ledger logs into one file, and somebody else then puts other entries in its place. HMAC is
seen as a function that does not collide on what was logged and that only the ledger can compute.
The file then verifies exactly when its entries are the first ones that were logged.
-/
namespace VelaFlow.Security

open JsonText

variable {library : LedgerLibrary}

/-- The text that is hashed for an entry. -/
def payload (library : LedgerLibrary) (entry : Dict) : List Char :=
  dumpsSorted library.floats (.obj (entry.erase "hash"))

end VelaFlow.Security
