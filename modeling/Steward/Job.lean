import Steward.Failure
import Steward.Json.Display
import Steward.Workspace

/-! What a bot does is a job: a function of its station and of the session so far, which ends with a
result or a failure and leaves a longer session. A failure undoes nothing. -/

namespace Steward

/-! ## The service's side -/

/-- A request as it is handed over for sending; body and parameters are null where there are
none. -/
structure Request where
  method : String
  url : Wording
  body : Json
  parameters : Json
deriving Repr

inductive Answer where
  | reply (status : Int) (body : String)
  | refusal (reason : String)
deriving DecidableEq, Repr

/-- The answer to a request for which none is prepared. -/
def Answer.standard : Answer := .reply 200 "\x7b\x7d"

/-! ## Sessions -/

inductive Level where
  | info
  | error
deriving DecidableEq, Repr

def Level.name : Level → String
  | .info => "INFO"
  | .error => "ERROR"

structure LogLine where
  level : Level
  bot : String
  text : Wording
deriving DecidableEq, Repr

def LogLine.render (line : LogLine) : Wording :=
  s!"{line.level.name} [{line.bot}] " ++ line.text

inductive Notice where
  | tokenMissing
  | eventPathMissing
  | settingsMalformed
  | settingsNotMapping
deriving DecidableEq, Repr

def Notice.message : Notice → String
  | .tokenMissing => "ERROR: GITHUB_TOKEN not set"
  | .eventPathMissing => "ERROR: GITHUB_EVENT_PATH not set"
  | .settingsMalformed => "WARNING: Failed to parse bot config YAML"
  | .settingsNotMapping => "WARNING: Bot config must be a mapping, using defaults"

structure Wait where
  requestsBefore : Nat
  duration : Json
deriving Repr

/-- What a job works on and leaves behind. `answers` are those still to come; the requests, log
lines, waits and notices are in the order in which they came about. -/
structure Session where
  answers : List Answer
  files : Files
  requests : List Request
  log : List LogLine
  waits : List Wait
  notices : List Notice

namespace Session

def pauses (session : Session) : List Json := session.waits.map Wait.duration

def start (answers : List Answer) (files : Files) : Session := ⟨answers, files, [], [], [], []⟩

def continued (session : Session) : Session := start session.answers session.files

end Session

/-- Where a bot stands: the name in its log lines, the base address and token of the service, the
environment, and the time of day as text. -/
structure Station where
  bot : String
  service : String
  token : String
  environment : Environment
  now : String

/-! ## Jobs -/

def Job (α : Type) : Type := Station → Session → Except Failure α × Session

namespace Job

protected def pure {α : Type} (value : α) : Job α := fun _ session => (.ok value, session)

protected def bind {α β : Type} (job : Job α) (next : α → Job β) : Job β := fun station session =>
  match job station session with
  | (.ok value, after) => next value station after
  | (.error failure, after) => (.error failure, after)

instance : Monad Job where
  pure := Job.pure
  bind := Job.bind

def fail {α : Type} (failure : Failure) : Job α := fun _ session => (.error failure, session)

def ofExcept {α : Type} (result : Except Failure α) : Job α := fun _ session => (result, session)

instance : MonadLift (Except Failure) Job where
  monadLift := ofExcept

def attempt {α : Type} (job : Job α) : Job (Except Failure α) := fun station session =>
  let (result, after) := job station session
  (.ok result, after)

def onFailure {α : Type} (job : Job α) (cleanup : Failure → Job Unit) : Job α := do
  match ← attempt job with
  | .ok value => return value
  | .error failure =>
      cleanup failure
      fail failure

def station : Job Station := fun station session => (.ok station, session)

def environment (name : String) : Job (Option String) := do
  return (← station).environment.get? name

def files : Job Files := fun _ session => (.ok session.files, session)

def answersLeft : Job Nat := fun _ session => (.ok session.answers.length, session)

def movedBy {α : Type} (move : Station → Station) (job : Job α) : Job α := fun station session =>
  job (move station) session

def named {α : Type} (bot : String) (job : Job α) : Job α :=
  job.movedBy fun station => { station with bot }

/-! ## Effects -/

def record (level : Level) (text : Wording) : Job Unit := fun station session =>
  (.ok (), { session with log := session.log ++ [⟨level, station.bot, text⟩] })

def info (text : Wording) : Job Unit := record .info text

def error (text : Wording) : Job Unit := record .error text

def pause (duration : Json) : Job Unit := fun _ session =>
  (.ok (), { session with waits := session.waits ++ [⟨session.requests.length, duration⟩] })

def notify (notice : Notice) : Job Unit := fun _ session =>
  (.ok (), { session with notices := session.notices ++ [notice] })

def send (request : Request) : Job Answer := fun _ session =>
  (.ok (session.answers.headD .standard),
    { session with
      answers := session.answers.drop 1
      requests := session.requests ++ [request] })

def decodeText (bytes : List UInt8) : Except Failure String := do
  let text ← (Text.Utf8.decode bytes).mapError Failure.encoding
  return String.ofList (Text.unifyLineEnds text.toList)

def readText (path : String) : Job String := do
  let bytes ← ((← files).read path).mapError Failure.file
  decodeText bytes

/-- Appends to a file, which is there afterwards even if the content cannot be encoded. -/
def append (path : String) (content : Wording) : Job Unit := fun _ session =>
  match session.files.append path (Text.Utf8.encode (content.encodable.toOption.getD "")) with
  | .ok files =>
      ((content.encodable.mapError Failure.unencodable).map fun _ => (), { session with files })
  | .error fault => (.error (.file fault), session)

end Job

end Steward
