import Preflight.CommandLine.Usage

/-!
# Help

The options of the program and of its command, their usage lines and help texts.
-/

namespace Preflight.CommandLine

def programName : String := "gatecheck"

def checkName : String := "check"

inductive ProgramOption
  | help
  | version
  deriving DecidableEq, Repr

inductive CheckOption
  | help
  | quiet
  | verbose
  | logLevel
  | config
  | debug
  | lint
  | schema
  | online
  | testRoutes
  | port
  deriving DecidableEq, Repr

def programOptions : OptionTable ProgramOption := [
  ⟨.help, ["-h", "--help"], false⟩,
  ⟨.version, ["--version"], false⟩]

def checkOptions : OptionTable CheckOption := [
  ⟨.help, ["-h", "--help"], false⟩,
  ⟨.quiet, ["-q", "--quiet"], false⟩,
  ⟨.verbose, ["-v", "--verbose"], false⟩,
  ⟨.logLevel, ["--log-level"], true⟩,
  ⟨.config, ["-c", "--config"], true⟩,
  ⟨.debug, ["-d", "--debug"], false⟩,
  ⟨.lint, ["-l", "--lint"], false⟩,
  ⟨.schema, ["-s", "--schema"], true⟩,
  ⟨.online, ["-o", "--online"], false⟩,
  ⟨.testRoutes, ["-t", "--test-routes"], false⟩,
  ⟨.port, ["-p", "--port"], true⟩]

def lines (l : List String) : String := String.join (l.map (· ++ "\n"))

def programUsage : String := lines ["usage: gatecheck [-h] [--version] \x7bcheck\x7d ..."]

def programHelp : String := programUsage ++ lines [
  "",
  "options:",
  "  -h, --help  show this help message and exit",
  "  --version   show program's version number and exit",
  "",
  "Commands:",
  "  Execute one of the following commands",
  "",
  "  \x7bcheck\x7d",
  "    check     validate the gateway configuration file"]

def checkUsage : String := lines [
  "usage: gatecheck check [-h] [-q] [-v] [--log-level \x7bdebug,info,warning,error\x7d]",
  "                       [-c CONFIG] [-d] [-l] [-s SCHEMA] [-o] [-t] [-p PORT]"]

def checkHelp : String := checkUsage ++ lines [
  "",
  "options:",
  "  -h, --help            show this help message and exit",
  "  -c CONFIG, --config CONFIG",
  "                        path to the configuration file",
  "  -d, --debug           dump the parsed configuration, repeat to raise the",
  "                        verbosity",
  "  -l, --lint            lint the configuration against its JSON schema",
  "  -s SCHEMA, --schema SCHEMA",
  "                        path or URL of a custom schema",
  "  -o, --online          lint against the hosted schema of the running release",
  "                        line",
  "  -t, --test-routes     start the router to test the routes",
  "  -p PORT, --port PORT  listening port used when testing routes",
  "",
  "logging:",
  "  -q, --quiet",
  "  -v, --verbose",
  "  --log-level \x7bdebug,info,warning,error\x7d"]

end Preflight.CommandLine
