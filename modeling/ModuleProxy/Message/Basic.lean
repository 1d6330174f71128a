import ModuleProxy.Message.Properties

namespace ModuleProxy

structure Message where
  content : Bytes := []
  properties : Properties := {}

namespace Message

def ofText (text : String) (properties : Properties) : Message where
  content := Text.Utf8.encode text
  properties := properties

def encodedSize (m : Message) : Nat :=
  FrameKind.message.minSize + m.properties.encodedSize + m.content.length

def beq (a b : Message) : Bool :=
  a.content == b.content && a.properties == b.properties

instance : BEq Message := ⟨beq⟩

end Message

end ModuleProxy
