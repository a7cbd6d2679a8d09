import Steward.Bot
import Steward.Json.Reader
import Steward.Json.Writer

/-! The command line: runs a bot in the working directory. The arguments are the bot's name and the
time of day, as it is to stand in check runs. The answers of the service are read from standard
input, one JSON object a line: `status` and `body`, or `refusal`. The log goes to standard output;
with `--requests` as third argument the requests follow it, one JSON object a line. -/

namespace Steward.Main

def variableNames : List String :=
  ["GITHUB_TOKEN", "GITHUB_API_URL", "GITHUB_EVENT_NAME", "GITHUB_EVENT_PATH", "GITHUB_REPOSITORY",
   "GITHUB_OUTPUT", "BOT_CONFIG_PATH", "DCO_PASSED", "GPG_PASSED", "MERGE_CONFLICT"]

def fileVariables : List String := ["GITHUB_EVENT_PATH", "GITHUB_OUTPUT", "BOT_CONFIG_PATH"]

def answerOf (line : String) : Option Answer :=
  match Json.read line with
  | .ok (.object members) =>
      match Json.lookup members "refusal", Json.lookup members "body" with
      | .text reason, _ => some (.refusal reason.shown)
      | _, .text body => some (.reply ((Json.lookup members "status").integer?.getD 200) body.shown)
      | _, _ => none
  | _ => none

def requestLine (request : Request) : String :=
  Json.write (.object
    [("method", .text request.method), ("url", .text request.url), ("body", request.body),
     ("parameters", request.parameters)])

def readEnvironment : IO Environment := do
  let mut environment : Environment := []
  for name in variableNames do
    if let some value ← IO.getEnv name then environment := (name, value) :: environment
  return environment

def readFiles (environment : Environment) : IO Files := do
  let paths := Settings.standardPath :: fileVariables.filterMap environment.nonEmpty?
  let mut files : List (String × List UInt8) := []
  for path in paths do
    try
      let content ← IO.FS.readBinFile path
      files := (path, content.toList) :: files
    catch _ => continue
  return Files.ofList files

def readAnswers : IO (List Answer) := do
  let input ← (← IO.getStdin).readToEnd
  return (input.splitOn "\n").filterMap answerOf

def saveOutput (environment : Environment) (before after : Files) : IO Unit := do
  if let some path := environment.nonEmpty? "GITHUB_OUTPUT" then
    if let some content := after.file? path then
      if before.file? path ≠ some content then
        IO.FS.writeBinFile path ⟨content.toArray⟩

def runBot (bot : Bot) (now : String) (showRequests : Bool) : IO UInt32 := do
  let environment ← readEnvironment
  let files ← readFiles environment
  let station : Station :=
    { bot := bot.name, service := Service.standardAddress, token := "", environment, now }
  let (result, session) := bot.start station (Session.start (← readAnswers) files)
  for line in session.log do
    if let .ok text := line.render.encodable then IO.println text
  if showRequests then
    for request in session.requests do IO.println (requestLine request)
  for notice in session.notices do IO.eprintln notice.message
  saveOutput environment files session.files
  match result with
  | .ok _ => return 0
  | .error (.exit code) => return code.toUInt32
  | .error failure =>
      IO.eprintln failure.message.shown
      return 1

end Steward.Main

def main (arguments : List String) : IO UInt32 := do
  match arguments with
  | name :: now :: rest =>
      match Steward.Bot.all.find? (·.name = name) with
      | some bot => Steward.Main.runBot bot now (rest.contains "--requests")
      | none =>
          IO.eprintln ("unknown bot: " ++ name)
          return 2
  | _ =>
      IO.eprintln ("usage: steward (" ++
        " | ".intercalate (Steward.Bot.all.map Steward.Bot.name) ++ ") TIME [--requests]")
      return 2
