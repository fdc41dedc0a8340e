import ClassAtlas.Path
import ClassAtlas.Text.Utf8

/-!
# Raw paths

The disk calls its files by bytes, and any will do but slashes and zeros. A
text stands for its own bytes. The other way round a name is shown with marks
where its bytes are no text, so that two names can look the same.
-/

namespace ClassAtlas

/-- The name of an entry of a folder. -/
structure FileName where
  bytes : Bytes
deriving DecidableEq

namespace FileName

def ofText (text : String) : FileName :=
  ⟨Text.Utf8.encode text⟩

instance : Coe String FileName := ⟨ofText⟩

def shown (name : FileName) : String :=
  Text.Utf8.decodeLossy name.bytes

end FileName

/-- A path as the disk knows it. -/
structure RawPath where
  bytes : Bytes
deriving DecidableEq

def Path.raw (p : Path) : RawPath :=
  ⟨Text.Utf8.encode p.text⟩

namespace RawPath

def slash : UInt8 := 0x2F

def shown (p : RawPath) : Path :=
  ⟨Text.Utf8.decodeLossy p.bytes⟩

/-- The path of an entry of the folder at `p`. -/
def enter (p : RawPath) (name : FileName) : RawPath :=
  match p.bytes.getLast? with
  | none => ⟨name.bytes⟩
  | some last =>
    if last = slash then ⟨p.bytes ++ name.bytes⟩ else ⟨p.bytes ++ slash :: name.bytes⟩

end RawPath

end ClassAtlas
