import ClassAtlas.Archive
import ClassAtlas.ClassFile.Structure
import ClassAtlas.Descriptor

/-!
# Formats

What the bytes of class files and archives and the texts of descriptors are
taken for. Locations work with any formats; if nothing else is said, they are
the standard ones.
-/

namespace ClassAtlas

class Formats where
  classFile : Bytes → Except ClassFileFault ClassFile
  archive : Bytes → Option Archive
  typeDescriptor : String → Option TypeDescriptor
  methodDescriptor : String → Option MethodDescriptor

instance Formats.standard : Formats where
  classFile := ClassFile.parse
  archive := Archive.ofBytes?
  typeDescriptor := Descriptor.parseType?
  methodDescriptor := Descriptor.parseMethod?

end ClassAtlas
