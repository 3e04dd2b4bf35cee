/-!
# The environment

The variables that the program listens to.
-/

namespace PageSkins

structure Environment where
  vars : List (String × String) := []

namespace Environment

def urlName : String := "BLOGSKIN_API_URL"
def tokenName : String := "BLOGSKIN_ACCESS_TOKEN"
def formatName : String := "BLOGSKIN_OUTPUT_FORMAT"
def folderName : String := "BLOGSKIN_CONFIG_DIR"

/-- The value of a variable, the empty one too. -/
def get? (e : Environment) (name : String) : Option String := e.vars.lookup name

/-- The value of a variable that is not empty. -/
def set? (e : Environment) (name : String) : Option String := (e.get? name).filter fun s => !s.isEmpty

def apiUrl? (e : Environment) : Option String := e.set? urlName
def accessToken? (e : Environment) : Option String := e.set? tokenName
def outputFormat? (e : Environment) : Option String := e.set? formatName
def configFolder? (e : Environment) : Option String := e.set? folderName

end Environment
end PageSkins
