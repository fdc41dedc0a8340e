import ClassAtlas.Archive.Directory
import ClassAtlas.Compression.Bzip2
import ClassAtlas.Compression.Inflate
import ClassAtlas.Compression.Inflate64
import ClassAtlas.Compression.Lzma
import ClassAtlas.Compression.Xz
import ClassAtlas.Compression.Zstandard

/-!
# Contents of archives

The content of an entry stands behind a header of its own, compressed by the
method that the directory gives, and is checked once it is unpacked.
-/

namespace ClassAtlas

/-- Why the content of an entry cannot be had. -/
inductive EntryFault where
  /-- It is encrypted, compressed by an unknown method, or its header is missing. -/
  | refused
  /-- The data do not decompress or fail the check. -/
  | damaged
deriving DecidableEq

namespace Archive

/-- The known methods of compression. -/
inductive Method where
  | stored
  | deflated
  | deflated64
  | bzip2
  | lzma
  | zstandard
  | xz
  | ppmd
deriving DecidableEq

namespace Method

def ofCode? (code : Nat) : Option Method :=
  match code with
  | 0 => some stored
  | 8 => some deflated
  | 9 => some deflated64
  | 12 => some bzip2
  | 14 => some lzma
  | 93 => some zstandard
  | 95 => some xz
  | 98 => some ppmd
  | _ => none

/-- What data of an entry with this many bytes hold. One method is known by name only. -/
def decompress? (size : Nat) : Method → Bytes → Option Bytes
  | stored, data => some data
  | deflated, data => Inflate.inflate? data
  | deflated64, data => Inflate64.inflate? data
  | bzip2, data => Bzip2.decompress? data
  | lzma, data => Lzma.decompress? size data
  | zstandard, data => Zstandard.decompress? data
  | xz, data => Xz.decompress? data
  | ppmd, _ => none

end Method

/-- The content of an entry of an archive with `before` bytes in front of it. -/
def content (image : Image) (before : Nat) (h : Header) : Except EntryFault Bytes :=
  let start := before + h.offset
  match record? localHeader image start, Method.ofCode? h.method with
  | some record, some method =>
    if h.encrypted then .error .refused
    else
      let data := start + localHeader.size + fieldAt record 26 2 + fieldAt record 28 2
      match method.decompress? h.size (image.extract data (data + h.compressedSize)).toList with
      | none => .error .damaged
      | some content =>
        if Crc32.checksum content = h.crc then .ok content else .error .damaged
  | _, _ => .error .refused

end Archive

end ClassAtlas
