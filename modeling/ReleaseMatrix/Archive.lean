import ReleaseMatrix.Text
import ReleaseMatrix.Error
import ReleaseMatrix.Target
import ReleaseMatrix.Workspace.Change

namespace ReleaseMatrix.Crc32

/-- Divides one bit out, in the reflected polynomial of zip archives. -/
def step (r : UInt32) : UInt32 :=
  if r &&& 1 = 1 then (r >>> 1) ^^^ 0xEDB88320 else r >>> 1

def feed (r : UInt32) (b : UInt8) : UInt32 :=
  step (step (step (step (step (step (step (step (r ^^^ b.toUInt32))))))))

def checksum (bytes : Bytes) : UInt32 :=
  bytes.foldl feed 0xFFFFFFFF ^^^ 0xFFFFFFFF

end ReleaseMatrix.Crc32

namespace ReleaseMatrix.Zip

/-- A file in an archive. -/
structure Entry where
  name : String
  mode : Nat
  content : Bytes
deriving DecidableEq, Repr

/-- A number in `width` bytes, least significant first. -/
def number (width value : Nat) : Bytes :=
  match width with
  | 0 => []
  | w + 1 => UInt8.ofNat (value % 256) :: number w (value / 256)

/-- The number that bytes stand for, least significant first. -/
def value : Bytes → Nat
  | [] => 0
  | b :: rest => b.toNat + 256 * value rest

/-- The longest run of bytes that one uncompressed block holds. -/
def blockLimit : Nat := 65535

/-- One deflate block that holds its bytes as they are. -/
def block (isLast : Bool) (bytes : Bytes) : Bytes :=
  (if isLast then 1 else 0) :: number 2 bytes.length ++ number 2 (65535 - bytes.length) ++ bytes

/-- A deflate stream of uncompressed blocks, of which `n` are followed by another one. -/
def deflateWithin : Nat → Bytes → Bytes
  | 0, bytes => block true bytes
  | n + 1, bytes => block false (bytes.take blockLimit) ++ deflateWithin n (bytes.drop blockLimit)

def deflate (bytes : Bytes) : Bytes :=
  deflateWithin ((bytes.length - 1) / blockLimit) bytes

/-- The content of a deflate stream of at most `n` uncompressed blocks. -/
def inflateWithin : Nat → Bytes → Option Bytes
  | 0, _ => none
  | n + 1, stream =>
    match stream with
    | flag :: a :: b :: c :: d :: rest =>
      let length := value [a, b]
      if flag.toNat ≤ 1 ∧ value [c, d] = 65535 - length ∧ length ≤ rest.length then
        if flag = 1 then some (rest.take length)
        else (inflateWithin n (rest.drop length)).map (rest.take length ++ ·)
      else none
    | _ => none

def inflate (stream : Bytes) : Option Bytes :=
  inflateWithin (stream.length + 1) stream

def localMark : Bytes := [0x50, 0x4B, 3, 4]
def centralMark : Bytes := [0x50, 0x4B, 1, 2]
def endMark : Bytes := [0x50, 0x4B, 5, 6]

/-- The version of the format that deflated entries need. -/
def neededVersion : Nat := 20

/-- The flag that says names are in UTF-8. -/
def utf8Flag : Nat := 0x800

def deflateMethod : Nat := 8

/-- Midnight on the first day that the format can express. -/
def timeStamp : Bytes := number 2 0 ++ number 2 0x21

/-- What an entry's two headers have in common, from the needed version to the length of the name. -/
def sharedHeader (e : Entry) (nameLength packedLength : Nat) : Bytes :=
  number 2 neededVersion ++ number 2 utf8Flag ++ number 2 deflateMethod ++ timeStamp ++
    number 4 (Crc32.checksum e.content).toNat ++ number 4 packedLength ++ number 4 e.content.length ++
    number 2 nameLength ++ number 2 0

/-- The archive that holds one entry. -/
def write (e : Entry) : Bytes :=
  let name := Text.Utf8.encode e.name
  let packed := deflate e.content
  let header := sharedHeader e name.length packed.length
  let body := localMark ++ header ++ name ++ packed
  let central := centralMark ++ number 2 (3 * 256 + neededVersion) ++ header ++ number 2 0 ++ number 2 0 ++
    number 2 0 ++ number 4 (e.mode * 65536) ++ number 4 0 ++ name
  body ++ central ++ endMark ++ number 2 0 ++ number 2 0 ++ number 2 1 ++ number 2 1 ++
    number 4 central.length ++ number 4 body.length ++ number 2 0

/-- The number in `width` bytes from `offset` on. -/
def field (bytes : Bytes) (offset width : Nat) : Nat :=
  value ((bytes.drop offset).take width)

/-- The entry that a record of the central directory describes, and the directory after the record. -/
def readRecord (archive directory : Bytes) : Option (Entry × Bytes) := do
  guard (directory.take 4 = centralMark)
  let nameLength := field directory 28 2
  let nameBytes := (directory.drop 46).take nameLength
  let name ← Text.Utf8.decode? nameBytes
  let body := archive.drop (field directory 42 4)
  guard (body.take 4 = localMark)
  let packed := (body.drop (30 + field body 26 2 + field body 28 2)).take (field directory 20 4)
  guard (field directory 10 2 = deflateMethod)
  let content ← inflate packed
  guard (content.length = field directory 24 4)
  guard ((Crc32.checksum content).toNat = field directory 16 4)
  let next := 46 + nameLength + field directory 30 2 + field directory 32 2
  pure (⟨name, field directory 38 4 / 65536, content⟩, directory.drop next)

def readRecords (archive : Bytes) : Nat → Bytes → Option (List Entry)
  | 0, _ => some []
  | n + 1, directory => do
    let (e, rest) ← readRecord archive directory
    pure (e :: (← readRecords archive n rest))

/-- The length of the record that closes an archive without a comment. -/
def endLength : Nat := 22

/-- The entries of an archive of uncompressed deflate streams; `none` if the bytes are no such archive. -/
def entries? (archive : Bytes) : Option (List Entry) := do
  let closing := archive.drop (archive.length - endLength)
  guard (closing.take 4 = endMark)
  readRecords archive (field closing 10 2) (archive.drop (field closing 16 4))

def isMarked (bytes : Bytes) : Bool :=
  localMark.isPrefixOf bytes

end ReleaseMatrix.Zip

namespace ReleaseMatrix

/-- A release archive: the executable of one target, zipped. -/
structure Archive where
  target : Target
  version : String
  path : Path
deriving DecidableEq, Repr

namespace Archive

def extension : String := "zip"

def fileName (product version : String) (t : Target) : String :=
  product ++ "_" ++ version ++ "_" ++ t.id ++ "." ++ extension

/-- The name of the one entry: that of the binary, with the target's suffix at its end. -/
def entryName (binary : Path) (t : Target) : String :=
  let name := binary.fileName?.getD ""
  if name.endsWith t.exeSuffix then name else name ++ t.exeSuffix

/-- Where an archive is written before it gets its own name. -/
def draft (path : Path) : Path :=
  path.withExtension (extension ++ ".partial")

/-- The permissions of the entry: a regular file that everybody may run. -/
def entryMode : Nat := 0o100755

end Archive

/-- Archives builds of a product into a directory. -/
structure Archiver where
  product : String
  outDir : Path

namespace Archiver

def path (a : Archiver) (version : String) (t : Target) : Path :=
  a.outDir.join (Archive.fileName a.product version t)

/-- Writes a binary's archive to its draft. `path` is the name that the archive is to get. -/
def writeDraft (binary : Path) (entry : String) (path : Path) : TaskM ArchiveError Unit := do
  let _ ← (FileM.look (·.find binary)).describe (.binaryUnreadable binary ·.message)
  TaskM.describe (.unwritable path ·.message) do
    FileM.write (Archive.draft path) []
    let content ← FileM.look (·.read binary)
    FileM.write (Archive.draft path) (Zip.write ⟨entry, Archive.entryMode, content⟩)

/-- Archives the binary that a build left and removes the binary. A build without one has no archive. -/
def package (a : Archiver) (version : String) (t : Target) (binary? : Option Path) :
    TaskM ArchiveError Archive := do
  let some binary := binary? | throw (.noBinary t.id)
  let path := a.path version t
  match ← (writeDraft binary (Archive.entryName binary t) path).attempt with
  | .error e =>
    let _ ← (FileM.removeFile (Archive.draft path)).attempt
    throw e
  | .ok () =>
    (FileM.rename (Archive.draft path) path).describe (.unwritable path ·.message)
    let _ ← (FileM.removeFile binary).attempt
    pure ⟨t, version, path⟩

end Archiver

end ReleaseMatrix
