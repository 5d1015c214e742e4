/-!
# Settings

The environment variables that configure the program, and the commands used where they are not set.
-/

namespace Courier.Setting

/-- How the program names itself to servers. -/
def userAgent : String := "liboauth-agent/0.1.0"

def backend : String := "OAUTH_HTTP_BACKEND"

def getCommand : String := "OAUTH_HTTP_GET_CMD"

def postCommand : String := "OAUTH_HTTP_CMD"

def defaultGetCommand : String := "curl -sA '" ++ userAgent ++ "' '%u' "

def defaultPostCommand : String := "curl -sA '" ++ userAgent ++ "' -d '%p' '%u' "

end Courier.Setting
