/-!
# PushNotice.Release

**What the program calls itself**, on the command line and towards servers.
-/

namespace PushNotice

/-- The name of the program. -/
def programName : String := "herald"

/-- The version of the program. -/
def version : String := "0.1.0"

end PushNotice
