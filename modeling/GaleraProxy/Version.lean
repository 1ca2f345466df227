/-!
# The version of the program
-/

namespace GaleraProxy

/-- The name under which the program is called and presents itself. -/
def programName : String := "switchboard"

/-- The version of the program. -/
def programVersion : String := "0.2.0"

end GaleraProxy
