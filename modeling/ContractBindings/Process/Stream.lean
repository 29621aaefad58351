import ContractBindings.Process.Machine

/-!
# Streams

Opening, reading and writing files. A file that is open keeps its bytes when its name is taken away,
and a file with several names has the same bytes under each.
-/

namespace ContractBindings.Process

open Disk (Fault Node)

namespace World

/-- The bytes of the file with an identity. -/
def fileBytes (w : World) (identity : Nat) : ByteArray :=
  match w.disk.root.bytesWith? identity with
  | some bytes => bytes
  | none => (w.orphans.lookup identity).getD .empty

/-- The world with other bytes for the file with an identity. -/
def setFileBytes (w : World) (identity : Nat) (bytes : ByteArray) : World :=
  if (w.orphans.lookup identity).isSome then
    { w with orphans := (identity, bytes) :: w.orphans.filter (·.1 != identity) }
  else w.rewrite identity bytes

/-- The bytes to which a channel leads. -/
def bytes (w : World) : Channel → ByteArray
  | .file identity => w.fileBytes identity
  | .buffer index => w.buffers[index]?.getD .empty
  | _ => .empty

/-- The world after names were taken away: open files without a name are kept. -/
def keepOrphans (before after : World) : World :=
  let lost := before.opened.toList.filterMap fun f =>
    match f.channel with
    | .file identity =>
      match before.disk.root.bytesWith? identity, after.disk.root.bytesWith? identity with
      | some bytes, none => some (identity, bytes)
      | _, _ => none
    | _ => none
  if lost.isEmpty then after else { after with orphans := lost ++ after.orphans }

end World

/-- Bytes with others at an offset. -/
def splice (old : ByteArray) (offset : Nat) (new : ByteArray) : ByteArray :=
  if offset = old.size then old ++ new
  else
    let before := old.extract 0 offset
    let gap := (List.replicate (offset - before.size) (0 : UInt8)).toByteArray
    before ++ gap ++ new ++ old.extract (offset + new.size) old.size

/-- How a file is opened. -/
structure OpenMode where
  reads : Bool := false
  writes : Bool := false
  /-- Makes the file if there is none. -/
  creates : Bool := false
  /-- Takes away what the file holds. -/
  truncates : Bool := false
  appends : Bool := false

/-- For reading. -/
def OpenMode.reading : OpenMode := { reads := true }

/-- For writing from the start. -/
def OpenMode.writing : OpenMode := { writes := true, creates := true, truncates := true }

/-- For writing at the end. -/
def OpenMode.appending : OpenMode := { writes := true, creates := true, appends := true }

namespace Act

/-- Takes a step on the disk, or tells why not. Files that are open keep their bytes. -/
def edit (e : Disk.Edit) : Act (Except Fault Unit) := do
  let m ← get
  match m.edit e with
  | .error fault => return .error fault
  | .ok world =>
    set { m with world := m.world.keepOrphans world }
    return .ok ()

/-- Takes the step that the disk asks for, or tells why not. -/
def change (choose : Disk → Except Fault Disk.Edit) : Act (Except Fault Unit) := do
  match choose (← get).disk with
  | .error fault => return .error fault
  | .ok e => edit e

/-- The open file of a stream. -/
def openFile? (stream : Nat) : Act (Option (Nat × OpenFile)) := do
  let m ← get
  match m.context.streams.lookup stream with
  | none => return none
  | some index => return (m.world.opened[index]?).map fun f => (index, f)

/-- Adds an open file. -/
def addOpenFile (f : OpenFile) : Act Nat := do
  let m ← get
  set { m with world := { m.world with opened := m.world.opened.push f } }
  return m.world.opened.size

/-- Gives the file at a place an identity, if it has none. -/
def identityAt (place : List String) : Act Nat := do
  let m ← get
  match m.world.disk.root.get? place with
  | some (.file bytes attributes) =>
    if attributes.identity = 0 then
      let identity := m.world.lastIdentity + 1
      let world := m.world.put place (.file bytes { attributes with identity })
      set { m with world := { world with lastIdentity := identity } }
      return identity
    else return attributes.identity
  | _ => return 0

/-- Writes the bytes of a file with an identity. -/
def setFileBytes (identity : Nat) (bytes : ByteArray) : Act Unit :=
  modify fun m => { m with world := m.world.setFileBytes identity bytes }

/-- Opens the file at a place. -/
def openPlace (mode : OpenMode) (place : List String) : Act (Except Fault Nat) := do
  let m ← get
  let f (channel : Channel) : OpenFile :=
    { channel, reads := mode.reads, writes := mode.writes, appends := mode.appends }
  match m.world.disk.root.get? place with
  | some (.device .terminal) => return .error .noDevice
  | some (.device (.stream n)) =>
    match ← openFile? n with
    | some (_, other) => return .ok (← addOpenFile { f other.channel with offset := other.offset })
    | none => return .error .notFound
  | some (.device d) => return .ok (← addOpenFile (f (.device d)))
  | some (.file _ _) =>
    let identity ← identityAt place
    if mode.truncates then setFileBytes identity .empty
    return .ok (← addOpenFile (f (.file identity)))
  | some _ =>
    if mode.writes then return .error .isDirectory
    else return .ok (← addOpenFile (f .directory))
  | none => return .error .notFound

/-- Opens a file. -/
def openPath (mode : OpenMode) (path : String) : Act (Except Fault Nat) := do
  let m ← get
  let text := Machine.pathText path
  if mode.creates then
    match m.disk.filePlace text with
    | .error fault => return .error fault
    | .ok place =>
      if (m.world.disk.root.get? place).isNone then
        let attributes : Disk.Attributes :=
          { mode := 0o666 - (0o666 &&& m.context.mask), time := m.world.clock }
        set (m.put place (.file .empty attributes))
      openPlace mode place
  else
    match m.disk.walk text .follow with
    | .ok (.node place _) => openPlace mode place
    | .ok (.vacant _ _) => return .error .notFound
    | .error fault => return .error fault

/-- Changes an open file. -/
def setOpenFile (index : Nat) (f : OpenFile) : Act Unit :=
  modify fun m =>
    { m with world := { m.world with opened := m.world.opened.setIfInBounds index f } }

/-- Writes bytes to a stream. -/
def writeBytes (stream : Nat) (bytes : ByteArray) : Act (Except Fault Unit) := do
  match ← openFile? stream with
  | none => return .error .badStream
  | some (index, f) =>
    if !f.writes then return .error .badStream
    else
      match f.channel with
      | .directory => return .error .badStream
      | .device .full => return if bytes.isEmpty then .ok () else .error .noSpace
      | .device _ => return .ok ()
      | .buffer i =>
        modify fun m =>
          { m with world := { m.world with buffers := m.world.buffers.modify i (· ++ bytes) } }
        return .ok ()
      | .file identity =>
        let old := (← get).world.fileBytes identity
        let offset := if f.appends then old.size else f.offset
        setFileBytes identity (splice old offset bytes)
        setOpenFile index { f with offset := offset + bytes.size }
        return .ok ()

/-- Writes octets to a stream. -/
def write (stream : Nat) (text : String) : Act (Except Fault Unit) :=
  writeBytes stream (Text.octetBytes text)

/-- What is left to read from a stream, without reading it. -/
def unread (stream : Nat) : Act (Except Fault ByteArray) := do
  match ← openFile? stream with
  | none => return .error .badStream
  | some (_, f) =>
    if !f.reads then return .error .badStream
    else if f.channel = .directory then return .error .isDirectory
    else
      let bytes := (← get).world.bytes f.channel
      return .ok (bytes.extract f.offset bytes.size)

/-- Reads a number of bytes from a stream. -/
def skip (stream count : Nat) : Act Unit := do
  match ← openFile? stream with
  | none => return
  | some (index, f) => setOpenFile index { f with offset := f.offset + count }

/-- Reads everything that is left in a stream, as octets. -/
def readAll (stream : Nat) : Act (Except Fault String) := do
  match ← unread stream with
  | .error fault => return .error fault
  | .ok bytes =>
    skip stream bytes.size
    return .ok (Text.octetsOf bytes)

/-- Reads a whole file, as octets. -/
def readFile (path : String) : Act (Except Fault String) := do
  match ← openPath .reading path with
  | .error fault => return .error fault
  | .ok index =>
    let f? := (← get).world.opened[index]?
    match f? with
    | none => return .error .badStream
    | some f =>
      if f.channel = .directory then return .error .isDirectory
      else
        let bytes := (← get).world.bytes f.channel
        return .ok (Text.octetsOf (bytes.extract f.offset bytes.size))

/-- Adds a buffer that holds octets. -/
def addBuffer (text : String) : Act Nat := do
  let m ← get
  let buffers := m.world.buffers.push (Text.octetBytes text)
  set { m with world := { m.world with buffers } }
  return m.world.buffers.size

/-- Lets a stream lead to an open file, or to none. -/
def setStream (stream : Nat) (index : Option Nat) : Act Unit :=
  modify fun m =>
    let others := m.context.streams.filter (·.1 != stream)
    let streams := index.elim others fun i => (stream, i) :: others
    { m with context := { m.context with streams } }

/-! ## What programs say -/

/-- Says something on the output, which is sent on later. -/
def say (text : String) : Act Unit :=
  modify fun m => { m with context := { m.context with held := text :: m.context.held } }

/-- Says a line. -/
def sayLine (text : String) : Act Unit := say (text ++ "\n")

/-- Sends on what was said. -/
def sendHeld : Act Unit := do
  let m ← get
  if !m.context.held.isEmpty then
    let text := String.join m.context.held.reverse
    set { m with context := { m.context with held := [] } }
    match ← write 1 text with
    | .ok () => return
    | .error fault =>
      if !text.isEmpty then
        modify fun m => { m with context := { m.context with outputFault := some fault } }

/-- Says something at once. -/
def sayNow (text : String) : Act Unit := do
  say text
  sendHeld

/-- Complains, on the stream for that. -/
def complain (text : String) : Act Unit := do
  let _ ← write 2 (text ++ "\n")

/-- Complains and ends the program. -/
def giveUp {α : Type} (status : Nat) (text : String) : Act α := do
  complain text
  throw status

/-- Whether anything was said in vain, which is then forgotten. -/
def takeOutputFault : Act (Option Fault) := do
  let m ← get
  set { m with context := { m.context with outputFault := none } }
  return m.context.outputFault

end Act

end ContractBindings.Process
