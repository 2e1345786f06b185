import BuildRunner.Text.Utf8

/-! Octets as text. Programs of a machine work on octets and know no characters; here an octet is
written as the character of its number, so that a text of octets is a text whose characters lie
below U+0100. -/
namespace BuildRunner.Text.Octets

def ofByte (b : UInt8) : Char := Char.ofNat b.toNat

def ofBytes (bytes : List UInt8) : String := String.ofList (bytes.map ofByte)

def ofByteArray (bytes : ByteArray) : String := bytes.foldl (fun s b => s.push (ofByte b)) ""

def ofText (s : String) : String := ofBytes (Utf8.bytesOf s)

def toByte (c : Char) : UInt8 := UInt8.ofNat c.toNat

def toByteArray (s : String) : ByteArray := s.foldl (fun bytes c => bytes.push (toByte c)) .empty

end BuildRunner.Text.Octets
