/-!
# Help for the command line

The usage lines stand above every complaint about a command line, and at the top
of the help.
-/

namespace GrantKeeper.CommandLine

/-- The name of the program. -/
def programName : String := "policybind"

/-- The lines that show how a command is written. -/
def usageLines : List String := [
  "usage: policybind [-h] --bucket BUCKET --role ROLE --member MEMBER",
  "                  [--config CONFIG] [--timeout TIMEOUT]",
  "                  \x7bobserve,ensure,remove\x7d"]

/-- The lines that explain a command. -/
def helpLines : List String := usageLines ++ [
  "",
  "Keep one member bound to one role on a GCS bucket",
  "",
  "positional arguments:",
  "  \x7bobserve,ensure,remove\x7d",
  "                        observe: report drift; ensure: bind the member;",
  "                        remove: unbind it",
  "",
  "options:",
  "  -h, --help            show this help message and exit",
  "  --bucket BUCKET, -b BUCKET",
  "                        Bucket name",
  "  --role ROLE, -r ROLE  IAM role",
  "  --member MEMBER, -m MEMBER",
  "                        IAM member (e.g. user:a@example.com)",
  "  --config CONFIG, -c CONFIG",
  "                        JSON config string (e.g. '\x7b\"project_id\":\"my-",
  "                        project\"\x7d')",
  "  --timeout TIMEOUT, -t TIMEOUT",
  "                        Deadline in seconds for the whole cycle"]

/-- Lines as a text, each ended by a line feed. -/
def linesText (lines : List String) : String :=
  String.join (lines.map (· ++ "\n"))

end GrantKeeper.CommandLine
