import CanX.Data.Layout
import CanX.Data.Repository
import CanX.Transition.Program

/-! The world a data session lives in and the effects its code performs there. Any
other thread or process can run between two effects. -/

namespace CanX.Data

open Domain Transition

/-- The Arrow table of one segment: its identity and its rows. -/
structure SegmentTable where
  sessionId : Uuid
  streamId : String
  segmentIndex : Nat
  frames : List Frame
  deriving DecidableEq

inductive StoredFile where
  | table (table : SegmentTable)
  | truncated
  deriving DecidableEq

/-- What a `DataSessionWriter` holds between flushes. -/
structure Writer where
  session : DataSession
  maxFramesPerSegment : Nat
  buffer : List Frame
  lastAppendedSequence : Option Nat
  lastAppendedTimestamp : Option Seconds
  threshold_positive : 0 < maxFramesPerSegment

/-- The project database and files, with the writer of one session. Files are keyed
by their project-relative path. -/
structure World where
  database : Database
  files : String → Option StoredFile
  writer : Writer

inductive DataEffect where
  | readWriter
  | modifyWriter (change : Writer → Writer)
  | utcNow
  | uuid4
  | resolveWithinRoot (relativePath : String)
  | makeParent (path : String)
  | framesToTable (table : SegmentTable)
  | writeTable (table : SegmentTable) (path : String)
  | fileSize (path : String)
  | replaceFile (source target : String)
  | removeFile (path : String)
  | registerSegment (segment : DataSegment) (session : DataSession)
  | advanceSessionState (session : DataSession)
  | failActiveSession (sessionId : Uuid) (moment : DateTime)
  | markSessionInterrupted (sessionId : Uuid) (moment : DateTime)
  | listSessionsInState (state : DataSessionState)
  | readSession (sessionId : Uuid)

abbrev DataEffect.Answer : DataEffect → Type
  | readWriter => Writer
  | utcNow => DateTime
  | uuid4 => Uuid
  | resolveWithinRoot _ => String
  | framesToTable _ => SegmentTable
  | fileSize _ => Nat
  | advanceSessionState _ | failActiveSession _ _ => Bool
  | listSessionsInState _ => List DataSession
  | readSession _ => Option DataSession
  | _ => Unit

/-- What the environment decides about one effect. -/
structure Choice where
  fault : Option PyException
  now : DateTime
  uuid : Uuid
  byteSize : Nat
  deriving DecidableEq

abbrev DataProgram := Program DataEffect DataEffect.Answer PyException

/-- Reads and assignments of the writer's own attributes raise nothing. -/
def DataEffect.inMemory : DataEffect → Bool
  | readWriter | modifyWriter _ => true
  | _ => false

def World.committed (world : World) (outcome : Except PyException Database) :
    World × Except PyException Unit :=
  match outcome with
  | .ok database => ({ world with database }, .ok ())
  | .error error => (world, .error error)

def World.advanced (world : World) (outcome : Database × Bool) :
    World × Except PyException Bool :=
  ({ world with database := outcome.1 }, .ok outcome.2)

def World.withFile (world : World) (path : String) (file : Option StoredFile) : World :=
  { world with files := Function.update world.files path file }

/-- An effect that meets no fault of its environment. -/
def act : (request : DataEffect) → Choice → World → World × Except PyException request.Answer
  | .readWriter, _, world => (world, .ok world.writer)
  | .modifyWriter change, _, world => ({ world with writer := change world.writer }, .ok ())
  | .utcNow, choice, world => (world, .ok choice.now)
  | .uuid4, choice, world => (world, .ok choice.uuid)
  | .resolveWithinRoot relativePath, _, world => (world, .ok relativePath)
  | .makeParent _, _, world => (world, .ok ())
  | .framesToTable table, _, world =>
    if table.frames = [] then (world, .error (.data ⟨.integrity, "data.integrity.empty_segment",
      "A frame segment must hold at least one frame."⟩))
    else (world, .ok table)
  | .writeTable table path, _, world => (world.withFile path (some (.table table)), .ok ())
  | .fileSize path, choice, world =>
    if (world.files path).isSome then (world, .ok choice.byteSize) else (world, .error .os)
  | .replaceFile source target, _, world =>
    match world.files source with
    | some file => ((world.withFile source none).withFile target (some file), .ok ())
    | none => (world, .error .os)
  | .removeFile path, _, world =>
    if (world.files path).isSome then (world.withFile path none, .ok ())
    else (world, .error .os)
  | .registerSegment segment session, _, world =>
    world.committed (storageErrors "data.session.registration_failed"
      (registerSegment segment session world.database))
  | .advanceSessionState session, _, world =>
    world.advanced (advanceSessionState session world.database)
  | .failActiveSession sessionId moment, _, world =>
    world.advanced (failActiveSession sessionId moment world.database)
  | .markSessionInterrupted sessionId moment, _, world =>
    ({ world with database := markSessionInterrupted sessionId moment world.database }, .ok ())
  | .listSessionsInState state, _, world => (world, listSessionsInState state world.database)
  | .readSession sessionId, _, world => (world, readSession sessionId world.database)

/-- What an effect that raises leaves behind: only a table write leaves a trace. -/
def disturbed : DataEffect → World → World
  | .writeTable _ path, world => world.withFile path (some .truncated)
  | _, world => world

def perform (request : DataEffect) (choice : Choice) (world : World) :
    World × Except PyException request.Answer :=
  match (if request.inMemory then none else choice.fault) with
  | some error => (disturbed request world, .error error)
  | none => act request choice world

end CanX.Data
