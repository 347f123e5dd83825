/-!
# The version of the library
-/

namespace JobLedger

def version : String := "0.1.0"

end JobLedger
