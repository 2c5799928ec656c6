/-!
# Bytes

Entries and logs are compared byte by byte. Several libraries decide the equality of byte arrays,
each in its own way; this project always takes the decision of the core, so that its types decide
their equality in the same way whatever else is imported.
-/

namespace DeferredLog

instance (priority := 1100) decidableEqBytes : DecidableEq ByteArray :=
  ByteArray.decEq

end DeferredLog
