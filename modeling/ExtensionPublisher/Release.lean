/-!
# The release

What the program calls itself, to its users and to the service.
-/
namespace ExtensionPublisher.Release

/-- The name of the program. -/
def name : String := "azure-extensions-cli"

/-- The version of the program. -/
def version : String := "0.1.0"

/-- The program as it introduces itself to the service. -/
def agent : String := name ++ "/" ++ version

/-- The program as it introduces itself to its users. -/
def banner : String := name ++ " " ++ version

end ExtensionPublisher.Release
