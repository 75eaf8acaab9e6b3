import PanelLink.Failure
import PanelLink.Text.Line

/-! Text as the bytes that carry it, and the lines of a run of bytes. -/

namespace PanelLink.Text

def bytes (text : String) : Bytes := text.toList.flatMap String.utf8EncodeChar

def ofBytes? (bytes : Bytes) : Option String := String.fromUTF8? ⟨bytes.toArray⟩

def newline : UInt8 := 0x0A

def lines (bytes : Bytes) : List Bytes := splitLines newline bytes

end PanelLink.Text
