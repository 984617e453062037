import ContentCoding.Stream.Endpoint

/-!
# Streams that follow a script

Sinks and sources whose limits and failures are set out in advance, for trying
pipelines out and for stating what they do at a given fault.
-/

namespace ContentCoding

/-- When a scripted sink does not simply take what it is offered. -/
inductive SinkScript
  /-- It takes everything. -/
  | takesAll
  /-- It takes at most so many bytes at a time. -/
  | takesAtMost (count : Nat)
  /-- It takes so many bytes in all, and then refuses with a fault, or takes none. -/
  | takesInAll (count : Nat) (refusal : Option Fault)
  /-- It fails writes once it has been flushed. -/
  | failsOnceFlushed (fault : Fault)
  /-- It fails every flush. -/
  | failsFlushes (fault : Fault)
  /-- It fails so many writes before it takes any. -/
  | failsFirst (times : Nat) (fault : Fault)

/-- A sink that follows a script and keeps what it has taken. -/
structure ScriptedSink where
  /-- What it does. -/
  script : SinkScript
  /-- The bytes it has taken. -/
  taken : Array UInt8 := #[]
  /-- How many writes it has seen. -/
  writes : Nat := 0
  /-- How many flushes it has seen. -/
  flushes : Nat := 0

namespace ScriptedSink

/-- Take a number of bytes off an offer. -/
def take (sink : ScriptedSink) (bytes : Bytes) (count : Nat) :
    Except Fault Nat × ScriptedSink :=
  match sink with
  | ⟨script, taken, writes, flushes⟩ =>
    let bytes := bytes.take count
    (.ok bytes.length, ⟨script, taken.appendList bytes, writes + 1, flushes⟩)

/-- Answer a write. -/
def write (sink : ScriptedSink) (bytes : Bytes) : Except Fault Nat × ScriptedSink :=
  match sink.script with
  | .takesAll => sink.take bytes bytes.length
  | .takesAtMost count => sink.take bytes count
  | .takesInAll count refusal =>
    if bytes.isEmpty || sink.taken.size < count then sink.take bytes (count - sink.taken.size)
    else
      match refusal with
      | some fault => (.error fault, { sink with writes := sink.writes + 1 })
      | none => (.ok 0, { sink with writes := sink.writes + 1 })
  | .failsOnceFlushed fault =>
    if sink.flushes = 0 then sink.take bytes bytes.length
    else (.error fault, { sink with writes := sink.writes + 1 })
  | .failsFlushes _ => sink.take bytes bytes.length
  | .failsFirst times fault =>
    if sink.writes < times then (.error fault, { sink with writes := sink.writes + 1 })
    else sink.take bytes bytes.length

/-- Answer a flush. -/
def flush (sink : ScriptedSink) : Except Fault Unit × ScriptedSink :=
  let answer := match sink.script with
    | .failsFlushes fault => .error fault
    | _ => .ok ()
  (answer, { sink with flushes := sink.flushes + 1 })

instance : Sink ScriptedSink := ⟨write, flush⟩

end ScriptedSink

/-- When a scripted source does not simply hand out what there is room for. -/
inductive SourceScript
  /-- It hands out as much as there is room for. -/
  | givesAll
  /-- It hands out at most so many bytes at a time. -/
  | givesAtMost (count : Nat)
  /-- It fails every read after so many bytes in all. -/
  | failsAfter (count : Nat) (fault : Fault)
  /-- It fails so many reads before it hands out any. -/
  | failsFirst (times : Nat) (fault : Fault)

/-- A source that follows a script. -/
structure ScriptedSource where
  /-- What it does. -/
  script : SourceScript
  /-- The bytes it has not handed out. -/
  rest : Bytes
  /-- How many bytes it has handed out. -/
  given : Nat := 0
  /-- How many reads it has seen. -/
  reads : Nat := 0

namespace ScriptedSource

/-- Hand out a number of bytes. -/
def give (source : ScriptedSource) (count : Nat) : Except Fault Bytes × ScriptedSource :=
  let bytes := source.rest.take count
  (.ok bytes,
    { source with
      rest := source.rest.drop count
      given := source.given + bytes.length
      reads := source.reads + 1 })

/-- Answer a read. -/
def read (source : ScriptedSource) (room : Nat) : Except Fault Bytes × ScriptedSource :=
  match source.script with
  | .givesAll => source.give room
  | .givesAtMost count => source.give (min room count)
  | .failsAfter count fault =>
    if room = 0 || source.given < count then source.give (min room (count - source.given))
    else (.error fault, { source with reads := source.reads + 1 })
  | .failsFirst times fault =>
    if source.reads < times then (.error fault, { source with reads := source.reads + 1 })
    else source.give room

instance : Source ScriptedSource := ⟨read⟩

end ScriptedSource

end ContentCoding
